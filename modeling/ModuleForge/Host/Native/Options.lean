/-!
# Names of options

The options that the compiler knows by name: those that ask for warnings, those that choose
features, and those for the processor. A name that ends with `=` takes a value.
-/
namespace ModuleForge.Host.Native.Options

/-- The words of lines. -/
def words (lines : List String) : List String := lines.flatMap fun l => l.splitOn " "

/-- What stands behind `-W`. -/
def warnings : List String := words [
  "NSObject-attribute abi abi-tag abi= absolute-value address address-of-packed-member",
  "aggregate-return aggressive-loop-optimizations aliasing align-commons aligned-new= all",
  "alloc-size-larger-than= alloc-zero alloca alloca-larger-than= ampersand arith-conversion",
  "array-bounds array-bounds= array-compare array-parameter array-parameter= array-temporaries",
  "assign-intercept attribute-alias attribute-alias= attribute-warning attributes",
  "bad-function-cast bidi-chars bidi-chars= bool-compare bool-operation",
  "builtin-declaration-mismatch builtin-macro-redefined c++-compat c++0x-compat c++11-compat",
  "c++11-extensions c++14-compat c++14-extensions c++17-compat c++17-extensions c++1z-compat",
  "c++20-compat c++20-extensions c++23-extensions c++2a-compat c-binding-type c11-c2x-compat",
  "c90-c99-compat c99-c11-compat cannot-profile cast-align cast-align=strict cast-function-type",
  "cast-qual cast-result catch-value catch-value= char-subscripts character-truncation chkp",
  "class-conversion class-memaccess clobbered comma-subscript comment comments compare-reals",
  "conditionally-supported conversion conversion-extra conversion-null",
  "coverage-invalid-line-number coverage-mismatch cpp ctad-maybe-unsupported ctor-dtor-privacy",
  "dangling-else dangling-pointer dangling-pointer= date-time declaration-after-statement",
  "delete-incomplete delete-non-virtual-dtor deprecated deprecated-copy deprecated-copy-dtor",
  "deprecated-declarations deprecated-enum-enum-conversion deprecated-enum-float-conversion",
  "designated-init disabled-optimization discarded-array-qualifiers discarded-qualifiers",
  "div-by-zero do-subscript double-promotion duplicate-decl-specifier duplicated-branches",
  "duplicated-cond effc++ empty-body endif-labels enum-compare enum-conversion error",
  "error-implicit-function-declaration exceptions expansion-to-defined extra extra-semi",
  "float-conversion float-equal format format-contains-nul format-diag format-extra-args",
  "format-nonliteral format-overflow format-overflow= format-security format-signedness",
  "format-truncation format-truncation= format-y2k format-zero-length format= frame-address",
  "frame-larger-than= free-nonheap-object function-elimination hsa if-not-aligned",
  "ignored-attributes ignored-qualifiers implicit implicit-fallthrough implicit-fallthrough=",
  "implicit-function-declaration implicit-int implicit-interface implicit-procedure",
  "inaccessible-base incompatible-pointer-types infinite-recursion inherited-variadic-ctor",
  "init-list-lifetime init-self inline int-conversion int-in-bool-context int-to-pointer-cast",
  "integer-division interference-size intrinsic-shadow intrinsics-std invalid-constexpr",
  "invalid-imported-macros invalid-memory-model invalid-offsetof invalid-pch jump-misses-init",
  "larger-than- larger-than= line-truncation literal-suffix logical-not-parentheses logical-op",
  "long-long lto-type-mismatch main maybe-uninitialized memset-elt-size memset-transposed-args",
  "misleading-indentation mismatched-dealloc mismatched-new-delete mismatched-special-enum",
  "mismatched-tags missing-attributes missing-braces missing-declarations",
  "missing-field-initializers missing-format-attribute missing-include-dirs missing-noreturn",
  "missing-parameter-type missing-profile missing-prototypes missing-requires",
  "missing-template-keyword multichar multiple-inheritance multistatement-macros namespaces",
  "narrowing nested-externs noexcept noexcept-type non-template-friend non-virtual-dtor nonnull",
  "nonnull-compare normalized normalized= null-dereference objc-root-class odr old-style-cast",
  "old-style-declaration old-style-definition openacc-parallelism openmp-simd overflow",
  "overlength-strings overloaded-virtual override-init override-init-side-effects",
  "overwrite-recursive packed packed-bitfield-compat packed-not-aligned padded parentheses",
  "pedantic pessimizing-move placement-new placement-new= pmf-conversions pointer-arith",
  "pointer-compare pointer-sign pointer-to-int-cast pragmas prio-ctor-dtor",
  "property-assign-default protocol psabi range-loop-construct real-q-constant realloc-lhs",
  "realloc-lhs-all redundant-decls redundant-move redundant-tags register reorder restrict",
  "return-local-addr return-type scalar-storage-order selector sequence-point shadow",
  "shadow-compatible-local shadow-ivar shadow-local shadow=compatible-local shadow=global",
  "shadow=local shift-count-negative shift-count-overflow shift-negative-value shift-overflow",
  "shift-overflow= sign-compare sign-conversion sign-promo sized-deallocation",
  "sizeof-array-argument sizeof-array-div sizeof-pointer-div sizeof-pointer-memaccess",
  "stack-protector stack-usage= strict-aliasing strict-aliasing= strict-flex-arrays",
  "strict-null-sentinel strict-overflow strict-overflow= strict-prototypes",
  "strict-selector-match string-compare stringop-overflow stringop-overflow= stringop-overread",
  "stringop-truncation subobject-linkage suggest-attribute=cold suggest-attribute=const",
  "suggest-attribute=format suggest-attribute=malloc suggest-attribute=noreturn",
  "suggest-attribute=pure suggest-final-methods suggest-final-types suggest-override surprising",
  "switch switch-bool switch-default switch-enum switch-outside-range switch-unreachable",
  "sync-nand synth system-headers tabs target-lifetime tautological-compare templates terminate",
  "traditional traditional-conversion trampolines trigraphs trivial-auto-var-init tsan",
  "type-limits undeclared-selector undef undefined-do-loop underflow unicode uninitialized",
  "unknown-pragmas unreachable-code unsafe-loop-optimizations unsuffixed-float-constants unused",
  "unused-but-set-parameter unused-but-set-variable unused-const-variable",
  "unused-const-variable= unused-dummy-argument unused-function unused-label",
  "unused-local-typedefs unused-macros unused-parameter unused-result unused-value",
  "unused-variable use-after-free use-after-free= use-without-only useless-cast varargs",
  "variadic-macros vector-operation-performance vexing-parse virtual-inheritance",
  "virtual-move-assign vla vla-larger-than= vla-parameter volatile volatile-register-var",
  "write-strings zero-as-null-pointer-constant zero-length-bounds zerotrip"]

/-- What stands behind `-f`. -/
def features : List String := words [
  "PIC PIE abi-compat-version= abi-version= access-control ada-spec-parent=unit",
  "aggressive-loop-optimizations align-functions align-functions= align-jumps align-jumps=",
  "align-labels align-labels= align-loops align-loops= aligned-new aligned-new= all-virtual",
  "allocation-dce allow-leading-underscore allow-parameterless-variadic-functions",
  "allow-store-data-races alt-external-templates argument-alias argument-noalias",
  "argument-noalias-anything argument-noalias-global asan-shadow-offset= asm associative-math",
  "asynchronous-unwind-tables auto-inc-dec auto-profile auto-profile= bit-tests",
  "branch-count-reg branch-probabilities branch-target-load-optimize",
  "branch-target-load-optimize2 btr-bb-exclusive building-libgcc building-libgfortran",
  "building-libphobos-tests builtin builtin- builtin-printf call-saved- call-used- caller-saves",
  "callgraph-info callgraph-info= canon-prefix-map canonical-system-headers cf-protection",
  "cf-protection= char8 check-data-deps check-new check-pointer-bounds checking checking=",
  "chkp-check-incomplete-type chkp-check-read chkp-check-write chkp-first-field-has-own-bounds",
  "chkp-flexible-struct-trailing-arrays chkp-instrument-calls chkp-instrument-marked-only",
  "chkp-narrow-bounds chkp-narrow-to-innermost-array chkp-optimize chkp-store-bounds",
  "chkp-treat-zero-dynamic-size-as-infinite chkp-use-fast-string-functions",
  "chkp-use-nochk-string-functions chkp-use-static-bounds chkp-use-static-const-bounds",
  "chkp-use-wrappers chkp-zero-input-bounds-for-main cilkplus code-hoisting",
  "combine-stack-adjustments common compare-debug compare-debug-second compare-elim concepts",
  "concepts-diagnostics-depth= concepts-ts cond-mismatch conserve-space conserve-stack",
  "constexpr-cache-depth= constexpr-depth= constexpr-fp-except constexpr-loop-limit=",
  "constexpr-ops-limit= contract-assumption-mode= contract-build-level=",
  "contract-continuation-mode= contract-mode= contract-role= contract-semantic=",
  "contract-strict-declarations= contracts coroutines cprop-registers crossjumping",
  "cse-follow-jumps cse-skip-blocks cx-fortran-rules cx-limited-range data-sections",
  "dbg-cnt-list dbg-cnt= dce debug-cpp debug-prefix-map= debug-types-section declone-ctor-dtor",
  "deduce-init-list default-inline defer-pop delayed-branch delete-dead-exceptions",
  "delete-null-pointer-checks devirtualize devirtualize-at-ltrans devirtualize-speculatively",
  "diagnostics-color diagnostics-color= diagnostics-column-origin= diagnostics-column-unit=",
  "diagnostics-escape-format= diagnostics-format= diagnostics-generate-patch",
  "diagnostics-minimum-margin-width= diagnostics-parseable-fixits diagnostics-path-format=",
  "diagnostics-plain-output diagnostics-show-caret diagnostics-show-cwe diagnostics-show-labels",
  "diagnostics-show-line-numbers diagnostics-show-location= diagnostics-show-option",
  "diagnostics-show-path-depths diagnostics-show-rules diagnostics-show-template-tree",
  "diagnostics-urls= directives-only disable- dollars-in-identifiers dse dump- dump-ada-spec",
  "dump-ada-spec-slim dump-analyzer dump-analyzer-callgraph dump-analyzer-exploded-graph",
  "dump-analyzer-exploded-nodes dump-analyzer-exploded-nodes-2 dump-analyzer-exploded-nodes-3",
  "dump-analyzer-exploded-paths dump-analyzer-feasibility dump-analyzer-json",
  "dump-analyzer-state-purge dump-analyzer-stderr dump-analyzer-supergraph",
  "dump-analyzer-untracked dump-final-insns=filename dump-go-spec=filename",
  "dump-internal-locations dump-noaddr dump-passes dump-unnumbered dump-unnumbered-links",
  "dwarf2-cfi-asm early-inlining elide-constructors elide-type eliminate-dwarf2-dups",
  "eliminate-unused-debug-symbols eliminate-unused-debug-types emit-class-debug-always",
  "emit-struct-debug-baseonly emit-struct-debug-detailed= emit-struct-debug-reduced enable-",
  "enforce-eh-specs enum-int-equiv exceptions excess-precision= exec-charset=",
  "expensive-optimizations ext-numeric-literals extended-identifiers extern-tls-init",
  "external-templates fast-math fat-lto-objects file-prefix-map= finite-loops finite-math-only",
  "fixed- float-store fold-simple-inlines for-scope force-addr forward-propagate fp-contract=",
  "fp-int-builtin-inexact freestanding friend-injection function-cse function-sections gcse",
  "gcse-after-reload gcse-las gcse-lm gcse-sm gimple gnat-encodings= gnu-keywords gnu-tm",
  "gnu-unique gnu89-inline graphite graphite-identity guess-branch-probability guiding-decls",
  "handle-exceptions harden-compares harden-conditional-branches help help=",
  "hoist-adjacent-loads honor-std hosted huge-objects ident if-conversion if-conversion2",
  "implement-inlines implicit-constexpr implicit-inline-templates implicit-templates",
  "indirect-inlining inhibit-size-directive inline inline-atomics inline-functions",
  "inline-functions-called-once inline-limit- inline-limit= inline-small-functions",
  "input-charset= instrument-functions instrument-functions-exclude-file-list=filename",
  "instrument-functions-exclude-function-list=name instrument-functions-once ipa-bit-cp ipa-cp",
  "ipa-cp-alignment ipa-cp-clone ipa-icf ipa-icf-functions ipa-icf-variables ipa-matrix-reorg",
  "ipa-modref ipa-profile ipa-pta ipa-pure-const ipa-ra ipa-reference ipa-reference-addressable",
  "ipa-sra ipa-stack-alignment ipa-strict-aliasing ipa-struct-reorg ipa-vrp ira-algorithm=",
  "ira-hoist-pressure ira-loop-pressure ira-region= ira-share-save-slots ira-share-spill-slots",
  "ira-verbose= isolate-erroneous-paths-attribute isolate-erroneous-paths-dereference ivopts",
  "jump-tables keep-gc-roots-live keep-inline-functions keep-static-consts",
  "keep-static-functions labels-ok lang-info-include-translate lang-info-include-translate-not",
  "lang-info-include-translate= lang-info-module-cmi lang-info-module-cmi= large-source-files",
  "lax-vector-conversions leading-underscore lifetime-dse lifetime-dse=",
  "limit-function-alignment live-patching live-patching= live-range-shrinkage loop-block",
  "loop-flatten loop-interchange loop-nest-optimize loop-optimize loop-parallelize-all",
  "loop-strip-mine loop-unroll-and-jam lra-remat lto lto-compression-level=",
  "lto-odr-type-merging lto-partition= lto-report lto-report-wpa lto= macro-prefix-map=",
  "math-errno max-errors= max-include-depth= mem-report mem-report-wpa merge-all-constants",
  "merge-constants merge-debug-strings message-length= module-header module-header=",
  "module-implicit-inline module-lazy module-mapper= module-only module-version-ignore",
  "modules-ts modulo-sched modulo-sched-allow-regmoves move-loop-invariants move-loop-stores",
  "ms-extensions mudflap mudflapir mudflapth multiflags name-mangling-version- new-abi",
  "new-inheriting-ctors new-ttp-matching non-call-exceptions nonansi-builtins nonnull-objects",
  "nothrow-opt offload-abi= offload-options= omit-frame-pointer openacc openacc-dim= openmp",
  "openmp-simd openmp-target-simd-clone openmp-target-simd-clone= operator-names opt-info",
  "optimize-register-move optimize-sibling-calls optimize-strlen optional-diags pack-struct",
  "pack-struct= partial-inlining patchable-function-entry= pcc-struct-return pch-deps",
  "pch-preprocess peel-loops peephole peephole2 permissive permitted-flt-eval-methods= pic pie",
  "plan9-extensions plt plugin-arg- plugin= post-ipa-mem-report pre-include= pre-ipa-mem-report",
  "predictive-commoning prefetch-loop-arrays preprocessed pretty-templates printf-return-value",
  "profile profile-abs-path profile-arcs profile-correction profile-dir= profile-exclude-files=",
  "profile-filter-files= profile-generate profile-generate= profile-info-section",
  "profile-info-section= profile-note= profile-partial-training profile-prefix-map=",
  "profile-prefix-path= profile-reorder-functions profile-report profile-reproducible=",
  "profile-update= profile-use profile-use= profile-values random-seed random-seed=",
  "reciprocal-math record-gcc-switches ree reg-struct-return regmove rename-registers",
  "reorder-blocks reorder-blocks-algorithm= reorder-blocks-and-partition reorder-functions repo",
  "report-bug rerun-cse-after-loop rerun-loop-opt reschedule-modulo-scheduled-loops",
  "rounding-math rtti sanitize-address-use-after-scope sanitize-coverage= sanitize-recover",
  "sanitize-recover= sanitize-sections= sanitize-trap sanitize-trap=",
  "sanitize-undefined-trap-on-error sanitize= save-optimization-record",
  "sched-critical-path-heuristic sched-dep-count-heuristic sched-group-heuristic",
  "sched-interblock sched-last-insn-heuristic sched-pressure sched-rank-heuristic sched-spec",
  "sched-spec-insn-heuristic sched-spec-load sched-spec-load-dangerous sched-stalled-insns",
  "sched-stalled-insns-dep sched-stalled-insns-dep= sched-stalled-insns= sched-verbose=",
  "sched2-use-superblocks sched2-use-traces schedule-fusion schedule-insns schedule-insns2",
  "section-anchors see sel-sched-pipelining sel-sched-pipelining-outer-loops",
  "sel-sched-reschedule-pipelined selective-scheduling selective-scheduling2 self-test=",
  "semantic-interposition short-enums short-wchar show-column shrink-wrap shrink-wrap-separate",
  "signaling-nans signed-bitfields signed-char signed-zeros simd-cost-model=",
  "single-precision-constant sized-deallocation split-ivs-in-unroller split-loops split-paths",
  "split-stack split-wide-types split-wide-types-early squangle ssa-backprop ssa-phiopt",
  "sso-struct= stack-check stack-check= stack-clash-protection stack-limit",
  "stack-limit-register= stack-limit-symbol= stack-protector stack-protector-all",
  "stack-protector-explicit stack-protector-strong stack-reuse= stack-usage stats stdarg-opt",
  "store-merging strength-reduce strict-aliasing strict-enums strict-flex-arrays",
  "strict-flex-arrays= strict-overflow strict-prototype strict-volatile-bitfields",
  "strong-eval-order strong-eval-order= sync-libcalls syntax-only tabstop= target-help",
  "template-backtrace-limit= template-depth- template-depth= test-coverage this-is-variable",
  "thread-jumps time-report time-report-details tls-model= toplevel-reorder tracer",
  "track-macro-expansion track-macro-expansion= trampolines trapping-math trapv tree-bit-ccp",
  "tree-builtin-call-dce tree-ccp tree-ch tree-coalesce-inlined-vars tree-coalesce-vars",
  "tree-copy-prop tree-copyrename tree-cselim tree-dce tree-dominator-opts tree-dse",
  "tree-forwprop tree-fre tree-loop-distribute-patterns tree-loop-distribution",
  "tree-loop-if-convert tree-loop-if-convert-stores tree-loop-im tree-loop-ivcanon",
  "tree-loop-linear tree-loop-optimize tree-loop-vectorize tree-lrs tree-parallelize-loops=",
  "tree-partial-pre tree-phiprop tree-pre tree-pta tree-reassoc tree-salias tree-scev-cprop",
  "tree-sink tree-slp-vectorize tree-slsr tree-sra tree-store-ccp tree-store-copy-prop",
  "tree-switch-conversion tree-tail-merge tree-ter tree-vect-loop-version tree-vectorize",
  "tree-vectorizer-verbose= tree-vrp trivial-auto-var-init= unconstrained-commons",
  "unit-at-a-time unreachable-traps unroll-all-loops unroll-completely-grow-size unroll-loops",
  "unsafe-loop-optimizations unsafe-math-optimizations unsigned-bitfields unsigned-char",
  "unswitch-loops unwind-tables use-cxa-atexit use-cxa-get-exception-ptr use-ld=bfd use-ld=gold",
  "use-ld=lld use-ld=mold use-linker-plugin var-tracking var-tracking-assignments",
  "var-tracking-assignments-toggle var-tracking-uninit variable-expansion-in-unroller",
  "vect-cost-model vect-cost-model= verbose-asm version version-loops-for-strides",
  "visibility-inlines-hidden visibility-ms-compat visibility= vpt vtable-gc vtable-thunks",
  "vtable-verify= vtv-counts vtv-debug weak web whole-program wide-exec-charset=",
  "working-directory wrapv wrapv-pointer xref zee zero-call-used-regs= zero-initialized-in-bss"]

/-- What stands behind `-m`. -/
def processor : List String := words [
  "128bit-long-double 16 32 3dnow 3dnowa 64 80387 8bit-idiv 96bit-long-double abi= abm",
  "accumulate-outgoing-args address-mode= adx aes align-data= align-double align-functions=",
  "align-jumps= align-loops= align-stringops amx-bf16 amx-complex amx-fp16 amx-int8 amx-tile",
  "android arch= asm= avx avx2 avx256-split-unaligned-load avx256-split-unaligned-store",
  "avx5124fmaps avx5124vnniw avx512bf16 avx512bitalg avx512bw avx512cd avx512dq avx512er",
  "avx512f avx512fp16 avx512ifma avx512pf avx512vbmi avx512vbmi2 avx512vl avx512vnni",
  "avx512vp2intersect avx512vpopcntdq avxifma avxneconvert avxvnni avxvnniint8 bionic bmi bmi2",
  "branch-cost= call-ms2sysv-xlogues cet-switch cld cldemote clflushopt clwb clzero cmodel=",
  "cmpccxadd cpu= crc32 cx16 daz-ftz direct-extern-access dispatch-scheduler dump-tune-features",
  "enqcmd f16c fancy-math-387 fentry fentry-name= fentry-section= fma fma4 force-drap",
  "force-indirect-call fp-ret-in-387 fpmath= fsgsbase function-return= fused-madd fxsr gather",
  "general-regs-only gfni glibc hard-float harden-sls= hle hreset iamcu ieee-fp",
  "incoming-stack-boundary= indirect-branch-cs-prefix indirect-branch-register indirect-branch=",
  "inline-all-stringops inline-stringops-dynamically instrument-return= intel-syntax kl lam=",
  "large-data-threshold= long-double-128 long-double-64 long-double-80 lwp lzcnt manual-endbr",
  "memcpy-strategy= memset-strategy= mitigate-rop mmx movbe movdir64b movdiri move-max= mpx",
  "ms-bitfields musl mwait mwaitx needed no-align-stringops no-default no-fancy-math-387",
  "no-push-args no-red-zone no-sse4 nop-mcount omit-leaf-frame-pointer pc32 pc64 pc80 pclmul",
  "pcommit pconfig pku popcnt prefer-avx128 prefer-vector-width= preferred-stack-boundary=",
  "prefetchi prefetchwt1 prfchw ptwrite push-args raoint rdpid rdrnd rdseed recip recip=",
  "record-mcount record-return red-zone regparm= relax-cmpxchg-loop rtd rtm sahf scatter",
  "serialize sgx sha shstk skip-rax-setup soft-float sse sse2 sse2avx sse3 sse4 sse4.1 sse4.2",
  "sse4a sse5 sseregparm ssse3 stack-arg-probe stack-protector-guard-offset=",
  "stack-protector-guard-reg= stack-protector-guard-symbol= stack-protector-guard= stackrealign",
  "store-max= stringop-strategy= stv tbm tls-dialect= tls-direct-seg-refs tsxldtrk tune-ctrl=",
  "tune= uclibc uintr unroll-only-small-loops vaes veclibabi= vect8-ret-in-mem vpclmulqdq",
  "vzeroupper waitpkg wbnoinvd widekl x32 xop xsave xsavec xsaveopt xsaves"]

/-- Whether a name, with its value if it has one, or its opposite is in a table. -/
def isIn (table : List String) (name : String) : Bool :=
  let plain (cs : List Char) : Bool :=
    let head := cs.takeWhile (· ≠ '=')
    let name := String.ofList (if head.length < cs.length then head ++ ['='] else head)
    table.contains name
  let cs := name.toList
  plain cs || ("no-".toList.isPrefixOf cs && plain (cs.drop 3))

/-- Whether an option that changes nothing in the code is known. -/
def isKnown (a : String) : Bool :=
  let behind (start : String) : Option String :=
    if start.toList.isPrefixOf a.toList then some (String.ofList (a.toList.drop start.length)) else none
  let level (name : String) : Bool :=
    name.isEmpty || name.toList.all Char.isDigit || ["s", "g", "fast", "z"].contains name
  match behind "-Wl,", behind "-Wa,", behind "-Wp,", behind "-Wno-", behind "-W", behind "-f", behind "-m",
      behind "-O", behind "-g" with
  | some _, _, _, _, _, _, _, _, _ | _, some _, _, _, _, _, _, _, _ | _, _, some _, _, _, _, _, _, _ => true
  | _, _, _, some _, _, _, _, _, _ => true
  | _, _, _, _, some name, _, _, _, _ =>
    match "error=".toList.isPrefixOf name.toList with
    | true => isIn warnings (String.ofList (name.toList.drop 6))
    | false => name.isEmpty || isIn warnings name || "analyzer-".toList.isPrefixOf name.toList
  | _, _, _, _, _, some name, _, _, _ => ["PIC", "pic", "PIE", "pie"].contains name || isIn features name
  | _, _, _, _, _, _, some name, _, _ => isIn processor name
  | _, _, _, _, _, _, _, some name, _ => level name
  | _, _, _, _, _, _, _, _, some name =>
    name.isEmpty || name.toList.all Char.isDigit
      || ["gdb", "dwarf", "btf", "ctf", "stabs", "strict-dwarf", "split-dwarf", "z", "record-gcc-switches",
          "column-info", "pubnames"].any fun k => k.toList.isPrefixOf name.toList
  | _, _, _, _, _, _, _, _, _ =>
    ["-pipe", "-pedantic", "-pedantic-errors", "-pthread", "-ansi", "-s", "-v", "-nostdlib", "-nostdinc",
     "-nostdinc++", "-nodefaultlibs", "-nostartfiles", "-rdynamic", "-static-libgcc", "-static-libstdc++",
     "-w", "-P", "-C", "-CC", "-undef", "-trigraphs", "-no-pie", "-traditional-cpp", "-MD", "-MMD", "-MP",
     "-Q", "-save-temps", "-time", "-H", "-p", "-pg", "-symbolic", "-remap"].contains a

/-- Options of the linker and others whose value is the next argument and changes nothing in the
code. -/
def valued : List String :=
  ["-Xlinker", "-Xassembler", "-Xpreprocessor", "-z", "-T", "-u", "-e", "-B", "-MF", "-MT", "-MQ", "--param",
   "-iprefix", "-iwithprefix", "-isysroot", "-imultilib", "-aux-info", "-dumpbase", "-dumpdir"]

end ModuleForge.Host.Native.Options
