/-!
# The names in the system's libraries

What each of the system's libraries offers: the names of its functions, and its data with their
sizes in bytes. A name that only marks a version stands for nothing.
-/
namespace ModuleForge.Host.LibraryNames

/-- The names in a text, between blanks and ends of lines. -/
def split (text : String) : List String :=
  (text.splitOn "\n").flatMap fun line => (line.splitOn " ").filter (· ≠ "")

/-- Names and sizes that take turns. -/
def sized : List String → List (String × Nat)
  | name :: size :: rest => (name, size.toNat?.getD 8) :: sized rest
  | _ => []

/-- The functions of the C library. -/
def cFunctions : List String := split "
  _Exit _Fork _IO_adjust_column _IO_adjust_wcolumn _IO_default_doallocate _IO_default_finish
  _IO_default_pbackfail _IO_default_uflow _IO_default_xsgetn _IO_default_xsputn _IO_do_write
  _IO_doallocbuf _IO_enable_locks _IO_fclose _IO_fdopen _IO_feof _IO_ferror _IO_fflush
  _IO_fgetpos _IO_fgetpos64 _IO_fgets _IO_file_attach _IO_file_close _IO_file_close_it
  _IO_file_doallocate _IO_file_finish _IO_file_fopen _IO_file_init _IO_file_open
  _IO_file_overflow _IO_file_read _IO_file_seek _IO_file_seekoff _IO_file_setbuf _IO_file_stat
  _IO_file_sync _IO_file_underflow _IO_file_write _IO_file_xsputn _IO_flockfile _IO_flush_all
  _IO_flush_all_linebuffered _IO_fopen _IO_fprintf _IO_fputs _IO_fread _IO_free_backup_area
  _IO_free_wbackup_area _IO_fsetpos _IO_fsetpos64 _IO_ftell _IO_ftrylockfile _IO_funlockfile
  _IO_fwrite _IO_getc _IO_getline _IO_getline_info _IO_gets _IO_init _IO_init_marker
  _IO_init_wmarker _IO_iter_begin _IO_iter_end _IO_iter_file _IO_iter_next _IO_least_wmarker
  _IO_link_in _IO_list_lock _IO_list_resetlock _IO_list_unlock _IO_marker_delta
  _IO_marker_difference _IO_padn _IO_peekc_locked _IO_popen _IO_printf _IO_proc_close
  _IO_proc_open _IO_putc _IO_puts _IO_remove_marker _IO_seekmark _IO_seekoff _IO_seekpos
  _IO_seekwmark _IO_setb _IO_setbuffer _IO_setvbuf _IO_sgetn _IO_sprintf _IO_sputbackc
  _IO_sputbackwc _IO_sscanf _IO_str_init_readonly _IO_str_init_static _IO_str_overflow
  _IO_str_pbackfail _IO_str_seekoff _IO_str_underflow _IO_sungetc _IO_sungetwc
  _IO_switch_to_get_mode _IO_switch_to_main_wget_area _IO_switch_to_wbackup_area
  _IO_switch_to_wget_mode _IO_un_link _IO_ungetc _IO_unsave_markers _IO_unsave_wmarkers
  _IO_vfprintf _IO_vsprintf _IO_wdefault_doallocate _IO_wdefault_finish _IO_wdefault_pbackfail
  _IO_wdefault_uflow _IO_wdefault_xsgetn _IO_wdefault_xsputn _IO_wdo_write _IO_wdoallocbuf
  _IO_wfile_overflow _IO_wfile_seekoff _IO_wfile_sync _IO_wfile_underflow _IO_wfile_xsputn
  _IO_wmarker_delta _IO_wsetb __adjtimex __arch_prctl __argz_count __argz_next __argz_stringify
  __asprintf __asprintf_chk __assert __assert_fail __assert_perror_fail __backtrace
  __backtrace_symbols __backtrace_symbols_fd __bsd_getpgrp __bzero __call_tls_dtors __chk_fail
  __clock_gettime __clone __close __close_nocancel __cmsg_nxthdr __confstr_chk __connect
  __copy_grp __ctype_b_loc __ctype_get_mb_cur_max __ctype_init __ctype_tolower_loc
  __ctype_toupper_loc __cxa_at_quick_exit __cxa_atexit __cxa_finalize __cxa_thread_atexit_impl
  __cyg_profile_func_enter __cyg_profile_func_exit __dcgettext __dgettext __dprintf_chk __dup2
  __duplocale __endmntent __errno_location __explicit_bzero_chk __fbufsize __fcntl __fdelt_chk
  __fdelt_warn __fentry__ __ffs __fgets_chk __fgets_unlocked_chk __fgetws_chk
  __fgetws_unlocked_chk __file_change_detection_for_fp __file_change_detection_for_path
  __file_change_detection_for_stat __file_is_unchanged __finite __finitef __finitel __flbf __fork
  __fortify_fail __fpending __fprintf_chk __fpurge __fread_chk __fread_unlocked_chk __freadable
  __freading __freelocale __fseeko64 __fsetlocking __fstat64 __ftello64 __fwprintf_chk
  __fwritable __fwriting __fxstat __fxstat64 __fxstatat __fxstatat64 __gconv_create_spec
  __gconv_destroy_spec __gconv_get_alias_db __gconv_get_cache __gconv_get_modules_db __gconv_open
  __gconv_transliterate __getauxval __getcwd_chk __getdelim __getdomainname_chk __getgroups_chk
  __gethostname_chk __getlogin_r_chk __getmntent_r __getpagesize __getpgid __getpid __getrlimit
  __gets_chk __gettimeofday __getwd_chk __gmtime_r __h_errno_location __idna_from_dns_encoding
  __idna_to_dns_encoding __inet6_scopeid_pton __inet_aton_exact __inet_pton_length
  __internal_endnetgrent __internal_getnetgrent_r __internal_setnetgrent __isalnum_l __isalpha_l
  __isascii_l __isblank_l __iscntrl_l __isctype __isdigit_l __isgraph_l __isinf __isinff __isinfl
  __islower_l __isnan __isnanf __isnanf128 __isnanl __isoc99_fscanf __isoc99_fwscanf
  __isoc99_scanf __isoc99_sscanf __isoc99_swscanf __isoc99_vfscanf __isoc99_vfwscanf
  __isoc99_vscanf __isoc99_vsscanf __isoc99_vswscanf __isoc99_vwscanf __isoc99_wscanf __isprint_l
  __ispunct_l __isspace_l __isupper_l __iswalnum_l __iswalpha_l __iswblank_l __iswcntrl_l
  __iswctype __iswctype_l __iswdigit_l __iswgraph_l __iswlower_l __iswprint_l __iswpunct_l
  __iswspace_l __iswupper_l __iswxdigit_l __isxdigit_l __libc_alloc_buffer_alloc_array
  __libc_alloc_buffer_allocate __libc_alloc_buffer_copy_bytes __libc_alloc_buffer_copy_string
  __libc_alloc_buffer_create_failure __libc_alloca_cutoff __libc_allocate_once_slow
  __libc_allocate_rtsig __libc_calloc __libc_current_sigrtmax __libc_current_sigrtmin
  __libc_dn_expand __libc_dn_skipname __libc_dynarray_at_failure __libc_dynarray_emplace_enlarge
  __libc_dynarray_finalize __libc_dynarray_resize __libc_dynarray_resize_clear __libc_early_init
  __libc_fatal __libc_fcntl64 __libc_fork __libc_free __libc_freeres __libc_ifunc_impl_list
  __libc_init_first __libc_mallinfo __libc_malloc __libc_mallopt __libc_memalign __libc_msgrcv
  __libc_msgsnd __libc_ns_makecanon __libc_ns_samename __libc_pread __libc_pvalloc __libc_pwrite
  __libc_realloc __libc_reallocarray __libc_res_dnok __libc_res_hnok __libc_res_nameinquery
  __libc_res_queriesmatch __libc_sa_len __libc_scratch_buffer_grow
  __libc_scratch_buffer_grow_preserve __libc_scratch_buffer_set_array_size __libc_secure_getenv
  __libc_sigaction __libc_start_main __libc_system __libc_unwind_link_get __libc_valloc
  __lll_lock_wait_private __lll_lock_wake_private __longjmp_chk __lseek __lxstat __lxstat64
  __madvise __mbrlen __mbrtowc __mbsnrtowcs_chk __mbsrtowcs_chk __mbstowcs_chk __memcmpeq
  __memcpy_chk __memmove_chk __mempcpy __mempcpy_chk __memset_chk __merge_grp __mktemp __mmap
  __monstartup __mprotect __mq_open_2 __munmap __nanosleep __netlink_assert_response __newlocale
  __nl_langinfo_l __nptl_create_event __nptl_death_event __ns_name_compress __ns_name_ntop
  __ns_name_pack __ns_name_pton __ns_name_skip __ns_name_uncompress __ns_name_unpack
  __nss_configure_lookup __nss_database_get __nss_disable_nscd __nss_files_data_endent
  __nss_files_data_open __nss_files_data_put __nss_files_data_setent __nss_files_fopen
  __nss_group_lookup2 __nss_hash __nss_hostname_digits_dots __nss_hosts_lookup2 __nss_lookup
  __nss_lookup_function __nss_next2 __nss_parse_line_result __nss_passwd_lookup2 __nss_readline
  __nss_services_lookup2 __obstack_printf_chk __obstack_vprintf_chk __open __open64 __open64_2
  __open64_nocancel __open_2 __open_catalog __open_nocancel __openat64_2 __openat_2 __overflow
  __pipe __poll __poll_chk __posix_getopt __ppoll_chk __pread64 __pread64_chk __pread64_nocancel
  __pread_chk __printf_chk __printf_fp __profile_frequency __pthread_cleanup_routine
  __pthread_get_minstack __pthread_key_create __pthread_register_cancel
  __pthread_register_cancel_defer __pthread_unregister_cancel __pthread_unregister_cancel_restore
  __pthread_unwind_next __ptsname_r_chk __pwrite64 __rawmemchr __read __read_chk __read_nocancel
  __readlink_chk __readlinkat_chk __realpath_chk __recv __recv_chk __recvfrom_chk
  __register_atfork __res_context_hostalias __res_context_mkquery __res_context_query
  __res_context_search __res_context_send __res_get_nsaddr __res_iclose __res_init __res_nclose
  __res_ninit __res_nopt __res_randomid __res_state __resolv_context_get
  __resolv_context_get_override __resolv_context_get_preinit __resolv_context_put __sbrk
  __sched_cpualloc __sched_cpucount __sched_cpufree __sched_get_priority_max
  __sched_get_priority_min __sched_getparam __sched_getscheduler __sched_setscheduler
  __sched_yield __select __send __sendmmsg __setmntent __setpgid __shm_get_name __sigaction
  __signbit __signbitf __signbitl __sigpause __sigsetjmp __sigsuspend __sigtimedwait
  __snprintf_chk __socket __sprintf_chk __stack_chk_fail __statfs __stpcpy __stpcpy_chk __stpncpy
  __stpncpy_chk __strcasecmp __strcasecmp_l __strcasestr __strcat_chk __strcoll_l __strcpy_chk
  __strdup __strerror_r __strfmon_l __strftime_l __strncasecmp_l __strncat_chk __strncpy_chk
  __strndup __strsep_g __strtod_internal __strtod_l __strtod_nan __strtof128_internal
  __strtof128_nan __strtof_internal __strtof_l __strtof_nan __strtok_r __strtol_internal
  __strtol_l __strtold_internal __strtold_l __strtold_nan __strtoll_internal __strtoll_l
  __strtoul_internal __strtoul_l __strtoull_internal __strtoull_l __strverscmp __strxfrm_l
  __swprintf_chk __sysconf __syslog_chk __sysv_signal __tdelete __tfind __toascii_l __tolower_l
  __toupper_l __towctrans __towctrans_l __towlower_l __towupper_l __tsearch __ttyname_r_chk
  __twalk __twalk_r __uflow __underflow __uselocale __vasprintf_chk __vdprintf_chk __vfork
  __vfprintf_chk __vfscanf __vfwprintf_chk __vprintf_chk __vsnprintf __vsnprintf_chk
  __vsprintf_chk __vsscanf __vswprintf_chk __vsyslog_chk __vwprintf_chk __wait __waitpid
  __wcpcpy_chk __wcpncpy_chk __wcrtomb_chk __wcscasecmp_l __wcscat_chk __wcscoll_l __wcscpy_chk
  __wcsftime_l __wcsncasecmp_l __wcsncat_chk __wcsncpy_chk __wcsnrtombs_chk __wcsrtombs_chk
  __wcstod_internal __wcstod_l __wcstof128_internal __wcstof_internal __wcstof_l
  __wcstol_internal __wcstol_l __wcstold_internal __wcstold_l __wcstoll_internal __wcstoll_l
  __wcstombs_chk __wcstoul_internal __wcstoul_l __wcstoull_internal __wcstoull_l __wcsxfrm_l
  __wctomb_chk __wctrans_l __wctype_l __wmemcpy_chk __wmemmove_chk __wmempcpy_chk __wmemset_chk
  __woverflow __wprintf_chk __write __write_nocancel __wuflow __wunderflow
  __x86_get_cpuid_feature_leaf __xmknod __xmknodat __xpg_basename __xpg_sigpause __xpg_strerror_r
  __xstat __xstat64 _dl_find_object _dl_mcount_wrapper _dl_mcount_wrapper_check _exit _flushlbf
  _longjmp _mcleanup _mcount _nss_dns_getcanonname_r _nss_dns_gethostbyaddr2_r
  _nss_dns_gethostbyaddr_r _nss_dns_gethostbyname2_r _nss_dns_gethostbyname3_r
  _nss_dns_gethostbyname4_r _nss_dns_gethostbyname_r _nss_dns_getnetbyaddr_r
  _nss_dns_getnetbyname_r _nss_files_endaliasent _nss_files_endetherent _nss_files_endgrent
  _nss_files_endhostent _nss_files_endnetent _nss_files_endnetgrent _nss_files_endprotoent
  _nss_files_endpwent _nss_files_endrpcent _nss_files_endservent _nss_files_endsgent
  _nss_files_endspent _nss_files_getaliasbyname_r _nss_files_getaliasent_r
  _nss_files_getetherent_r _nss_files_getgrent_r _nss_files_getgrgid_r _nss_files_getgrnam_r
  _nss_files_gethostbyaddr_r _nss_files_gethostbyname2_r _nss_files_gethostbyname3_r
  _nss_files_gethostbyname4_r _nss_files_gethostbyname_r _nss_files_gethostent_r
  _nss_files_gethostton_r _nss_files_getnetbyaddr_r _nss_files_getnetbyname_r
  _nss_files_getnetent_r _nss_files_getnetgrent_r _nss_files_getntohost_r
  _nss_files_getprotobyname_r _nss_files_getprotobynumber_r _nss_files_getprotoent_r
  _nss_files_getpwent_r _nss_files_getpwnam_r _nss_files_getpwuid_r _nss_files_getrpcbyname_r
  _nss_files_getrpcbynumber_r _nss_files_getrpcent_r _nss_files_getservbyname_r
  _nss_files_getservbyport_r _nss_files_getservent_r _nss_files_getsgent_r _nss_files_getsgnam_r
  _nss_files_getspent_r _nss_files_getspnam_r _nss_files_init _nss_files_initgroups_dyn
  _nss_files_parse_etherent _nss_files_parse_grent _nss_files_parse_netent
  _nss_files_parse_protoent _nss_files_parse_pwent _nss_files_parse_rpcent
  _nss_files_parse_servent _nss_files_parse_sgent _nss_files_parse_spent _nss_files_setaliasent
  _nss_files_setetherent _nss_files_setgrent _nss_files_sethostent _nss_files_setnetent
  _nss_files_setnetgrent _nss_files_setprotoent _nss_files_setpwent _nss_files_setrpcent
  _nss_files_setservent _nss_files_setsgent _nss_files_setspent _nss_netgroup_parseline
  _obstack_allocated_p _obstack_begin _obstack_begin_1 _obstack_free _obstack_memory_used
  _obstack_newchunk _pthread_cleanup_pop _pthread_cleanup_push _setjmp _tolower _toupper a64l
  abort abs accept accept4 access acct addmntent addseverity adjtime adjtimex aio_cancel
  aio_cancel64 aio_error aio_error64 aio_fsync aio_fsync64 aio_init aio_read aio_read64
  aio_return aio_return64 aio_suspend aio_suspend64 aio_write aio_write64 alarm aligned_alloc
  alphasort alphasort64 arc4random arc4random_buf arc4random_uniform arch_prctl argp_error
  argp_failure argp_help argp_parse argp_state_help argp_usage argz_add argz_add_sep argz_append
  argz_count argz_create argz_create_sep argz_delete argz_extract argz_insert argz_next
  argz_replace argz_stringify asctime asctime_r asprintf atof atoi atol atoll backtrace
  backtrace_symbols backtrace_symbols_fd basename bcmp bcopy bind bind_textdomain_codeset
  bindresvport bindtextdomain brk bsd_signal bsearch btowc bzero c16rtomb c32rtomb c8rtomb
  call_once calloc canonicalize_file_name capget capset catclose catgets catopen cfgetispeed
  cfgetospeed cfmakeraw cfsetispeed cfsetospeed cfsetspeed chdir chflags chmod chown chroot
  clearenv clearerr clearerr_unlocked clock clock_adjtime clock_getcpuclockid clock_getres
  clock_gettime clock_nanosleep clock_settime clone close close_range closedir closefrom closelog
  cnd_broadcast cnd_destroy cnd_init cnd_signal cnd_timedwait cnd_wait confstr connect
  copy_file_range copysign copysignf copysignl creat creat64 ctermid ctime ctime_r cuserid daemon
  dcgettext dcngettext delete_module dgettext difftime dirfd dirname div dl_iterate_phdr dladdr
  dladdr1 dlclose dlerror dlinfo dlmopen dlopen dlsym dlvsym dn_comp dn_expand dn_skipname
  dngettext dprintf drand48 drand48_r dup dup2 dup3 duplocale dysize eaccess ecvt ecvt_r
  endaliasent endfsent endgrent endhostent endmntent endnetent endnetgrent endprotoent endpwent
  endrpcent endservent endsgent endspent endttyent endusershell endutent endutxent envz_add
  envz_entry envz_get envz_merge envz_remove envz_strip epoll_create epoll_create1 epoll_ctl
  epoll_pwait epoll_pwait2 epoll_wait erand48 erand48_r err error error_at_line errx ether_aton
  ether_aton_r ether_hostton ether_line ether_ntoa ether_ntoa_r ether_ntohost euidaccess eventfd
  eventfd_read eventfd_write execl execle execlp execv execve execveat execvp execvpe exit
  explicit_bzero faccessat fallocate fallocate64 fanotify_init fanotify_mark fchdir fchflags
  fchmod fchmodat fchown fchownat fclose fcloseall fcntl fcntl64 fcvt fcvt_r fdatasync fdopen
  fdopendir feof feof_unlocked ferror ferror_unlocked fexecve fflush fflush_unlocked ffs ffsl
  ffsll fgetc fgetc_unlocked fgetgrent fgetgrent_r fgetpos fgetpos64 fgetpwent fgetpwent_r fgets
  fgets_unlocked fgetsgent fgetsgent_r fgetspent fgetspent_r fgetwc fgetwc_unlocked fgetws
  fgetws_unlocked fgetxattr fileno fileno_unlocked finite finitef finitel flistxattr flock
  flockfile fmemopen fmtmsg fnmatch fopen fopen64 fopencookie fork forkpty fpathconf fprintf
  fputc fputc_unlocked fputs fputs_unlocked fputwc fputwc_unlocked fputws fputws_unlocked fread
  fread_unlocked free freeaddrinfo freeifaddrs freelocale fremovexattr freopen freopen64 frexp
  frexpf frexpl fscanf fsconfig fseek fseeko fseeko64 fsetpos fsetpos64 fsetxattr fsmount fsopen
  fspick fstat fstat64 fstatat fstatat64 fstatfs fstatfs64 fstatvfs fstatvfs64 fsync ftell ftello
  ftello64 ftime ftok ftruncate ftruncate64 ftrylockfile fts64_children fts64_close fts64_open
  fts64_read fts64_set fts_children fts_close fts_open fts_read fts_set ftw ftw64 funlockfile
  futimens futimes futimesat fwide fwprintf fwrite fwrite_unlocked fwscanf gai_cancel gai_error
  gai_strerror gai_suspend gcvt get_avphys_pages get_current_dir_name get_nprocs get_nprocs_conf
  get_phys_pages getaddrinfo getaddrinfo_a getaliasbyname getaliasbyname_r getaliasent
  getaliasent_r getauxval getc getc_unlocked getchar getchar_unlocked getcontext getcpu getcwd
  getdate getdate_r getdelim getdents64 getdirentries getdirentries64 getdomainname getdtablesize
  getegid getentropy getenv geteuid getfsent getfsfile getfsspec getgid getgrent getgrent_r
  getgrgid getgrgid_r getgrnam getgrnam_r getgrouplist getgroups gethostbyaddr gethostbyaddr_r
  gethostbyname gethostbyname2 gethostbyname2_r gethostbyname_r gethostent gethostent_r gethostid
  gethostname getifaddrs getipv4sourcefilter getitimer getline getloadavg getlogin getlogin_r
  getmntent getmntent_r getnameinfo getnetbyaddr getnetbyaddr_r getnetbyname getnetbyname_r
  getnetent getnetent_r getnetgrent getnetgrent_r getopt getopt_long getopt_long_only getpagesize
  getpass getpeername getpgid getpgrp getpid getppid getpriority getprotobyname getprotobyname_r
  getprotobynumber getprotobynumber_r getprotoent getprotoent_r getpt getpw getpwent getpwent_r
  getpwnam getpwnam_r getpwuid getpwuid_r getrandom getresgid getresuid getrlimit getrlimit64
  getrpcbyname getrpcbyname_r getrpcbynumber getrpcbynumber_r getrpcent getrpcent_r getrusage
  gets getservbyname getservbyname_r getservbyport getservbyport_r getservent getservent_r
  getsgent getsgent_r getsgnam getsgnam_r getsid getsockname getsockopt getsourcefilter getspent
  getspent_r getspnam getspnam_r getsubopt gettext gettid gettimeofday getttyent getttynam getuid
  getusershell getutent getutent_r getutid getutid_r getutline getutline_r getutmp getutmpx
  getutxent getutxid getutxline getw getwc getwc_unlocked getwchar getwchar_unlocked getwd
  getxattr glob glob64 glob_pattern_p globfree globfree64 gmtime gmtime_r gnu_dev_major
  gnu_dev_makedev gnu_dev_minor gnu_get_libc_release gnu_get_libc_version grantpt group_member
  gsignal gtty hasmntopt hcreate hcreate_r hdestroy hdestroy_r herror hsearch hsearch_r hstrerror
  htonl htons iconv iconv_close iconv_open if_freenameindex if_indextoname if_nameindex
  if_nametoindex imaxabs imaxdiv index inet6_opt_append inet6_opt_find inet6_opt_finish
  inet6_opt_get_val inet6_opt_init inet6_opt_next inet6_opt_set_val inet6_option_alloc
  inet6_option_append inet6_option_find inet6_option_init inet6_option_next inet6_option_space
  inet6_rth_add inet6_rth_getaddr inet6_rth_init inet6_rth_reverse inet6_rth_segments
  inet6_rth_space inet_addr inet_aton inet_lnaof inet_makeaddr inet_netof inet_network
  inet_nsap_addr inet_nsap_ntoa inet_ntoa inet_ntop inet_pton init_module initgroups initstate
  initstate_r innetgr inotify_add_watch inotify_init inotify_init1 inotify_rm_watch insque ioctl
  ioperm iopl iruserok iruserok_af isalnum isalnum_l isalpha isalpha_l isascii isatty isblank
  isblank_l iscntrl iscntrl_l isctype isdigit isdigit_l isfdtype isgraph isgraph_l isinf isinff
  isinfl islower islower_l isnan isnanf isnanl isprint isprint_l ispunct ispunct_l isspace
  isspace_l isupper isupper_l iswalnum iswalnum_l iswalpha iswalpha_l iswblank iswblank_l
  iswcntrl iswcntrl_l iswctype iswctype_l iswdigit iswdigit_l iswgraph iswgraph_l iswlower
  iswlower_l iswprint iswprint_l iswpunct iswpunct_l iswspace iswspace_l iswupper iswupper_l
  iswxdigit iswxdigit_l isxdigit isxdigit_l jrand48 jrand48_r kill killpg klogctl l64a labs
  lchmod lchown lckpwdf lcong48 lcong48_r ldexp ldexpf ldexpl ldiv lfind lgetxattr link linkat
  lio_listio lio_listio64 listen listxattr llabs lldiv llistxattr localeconv localtime
  localtime_r lockf lockf64 login login_tty logout logwtmp longjmp lrand48 lrand48_r lremovexattr
  lsearch lseek lseek64 lsetxattr lstat lstat64 lutimes madvise makecontext mallinfo mallinfo2
  malloc malloc_info malloc_stats malloc_trim malloc_usable_size mallopt mblen mbrlen mbrtoc16
  mbrtoc32 mbrtoc8 mbrtowc mbsinit mbsnrtowcs mbsrtowcs mbstowcs mbtowc mcheck mcheck_check_all
  mcheck_pedantic mcount memalign memccpy memchr memcmp memcpy memfd_create memfrob memmem
  memmove mempcpy memrchr memset mincore mkdir mkdirat mkdtemp mkfifo mkfifoat mknod mknodat
  mkostemp mkostemp64 mkostemps mkostemps64 mkstemp mkstemp64 mkstemps mkstemps64 mktemp mktime
  mlock mlock2 mlockall mmap mmap64 modf modff modfl modify_ldt moncontrol monstartup mount
  mount_setattr move_mount mprobe mprotect mq_close mq_getattr mq_notify mq_open mq_receive
  mq_send mq_setattr mq_timedreceive mq_timedsend mq_unlink mrand48 mrand48_r mremap msgctl
  msgget msgrcv msgsnd msync mtrace mtx_destroy mtx_init mtx_lock mtx_timedlock mtx_trylock
  mtx_unlock munlock munlockall munmap muntrace name_to_handle_at nanosleep newlocale nftw nftw64
  ngettext nice nl_langinfo nl_langinfo_l nrand48 nrand48_r ns_name_compress ns_name_ntop
  ns_name_pack ns_name_pton ns_name_skip ns_name_uncompress ns_name_unpack ntohl ntohs
  ntp_adjtime ntp_gettime ntp_gettimex obstack_free obstack_printf obstack_vprintf on_exit open
  open64 open_by_handle_at open_memstream open_tree open_wmemstream openat openat64 opendir
  openlog openpty parse_printf_format pathconf pause pclose perror personality pidfd_getfd
  pidfd_open pidfd_send_signal pipe pipe2 pivot_root pkey_alloc pkey_free pkey_get pkey_mprotect
  pkey_set poll popen posix_fadvise posix_fadvise64 posix_fallocate posix_fallocate64
  posix_madvise posix_memalign posix_openpt posix_spawn posix_spawn_file_actions_addchdir_np
  posix_spawn_file_actions_addclose posix_spawn_file_actions_addclosefrom_np
  posix_spawn_file_actions_adddup2 posix_spawn_file_actions_addfchdir_np
  posix_spawn_file_actions_addopen posix_spawn_file_actions_addtcsetpgrp_np
  posix_spawn_file_actions_destroy posix_spawn_file_actions_init posix_spawnattr_destroy
  posix_spawnattr_getflags posix_spawnattr_getpgroup posix_spawnattr_getschedparam
  posix_spawnattr_getschedpolicy posix_spawnattr_getsigdefault posix_spawnattr_getsigmask
  posix_spawnattr_init posix_spawnattr_setflags posix_spawnattr_setpgroup
  posix_spawnattr_setschedparam posix_spawnattr_setschedpolicy posix_spawnattr_setsigdefault
  posix_spawnattr_setsigmask posix_spawnp ppoll prctl pread pread64 preadv preadv2 preadv64
  preadv64v2 printf printf_size printf_size_info prlimit prlimit64 process_madvise
  process_mrelease process_vm_readv process_vm_writev profil pselect psiginfo psignal
  pthread_attr_destroy pthread_attr_getaffinity_np pthread_attr_getdetachstate
  pthread_attr_getguardsize pthread_attr_getinheritsched pthread_attr_getschedparam
  pthread_attr_getschedpolicy pthread_attr_getscope pthread_attr_getsigmask_np
  pthread_attr_getstack pthread_attr_getstackaddr pthread_attr_getstacksize pthread_attr_init
  pthread_attr_setaffinity_np pthread_attr_setdetachstate pthread_attr_setguardsize
  pthread_attr_setinheritsched pthread_attr_setschedparam pthread_attr_setschedpolicy
  pthread_attr_setscope pthread_attr_setsigmask_np pthread_attr_setstack
  pthread_attr_setstackaddr pthread_attr_setstacksize pthread_barrier_destroy
  pthread_barrier_init pthread_barrier_wait pthread_barrierattr_destroy
  pthread_barrierattr_getpshared pthread_barrierattr_init pthread_barrierattr_setpshared
  pthread_cancel pthread_clockjoin_np pthread_cond_broadcast pthread_cond_clockwait
  pthread_cond_destroy pthread_cond_init pthread_cond_signal pthread_cond_timedwait
  pthread_cond_wait pthread_condattr_destroy pthread_condattr_getclock
  pthread_condattr_getpshared pthread_condattr_init pthread_condattr_setclock
  pthread_condattr_setpshared pthread_create pthread_detach pthread_equal pthread_exit
  pthread_getaffinity_np pthread_getattr_default_np pthread_getattr_np pthread_getconcurrency
  pthread_getcpuclockid pthread_getname_np pthread_getschedparam pthread_getspecific pthread_join
  pthread_key_create pthread_key_delete pthread_kill pthread_mutex_clocklock
  pthread_mutex_consistent pthread_mutex_destroy pthread_mutex_getprioceiling pthread_mutex_init
  pthread_mutex_lock pthread_mutex_setprioceiling pthread_mutex_timedlock pthread_mutex_trylock
  pthread_mutex_unlock pthread_mutexattr_destroy pthread_mutexattr_getprioceiling
  pthread_mutexattr_getprotocol pthread_mutexattr_getpshared pthread_mutexattr_getrobust
  pthread_mutexattr_gettype pthread_mutexattr_init pthread_mutexattr_setprioceiling
  pthread_mutexattr_setprotocol pthread_mutexattr_setpshared pthread_mutexattr_setrobust
  pthread_mutexattr_settype pthread_once pthread_rwlock_clockrdlock pthread_rwlock_clockwrlock
  pthread_rwlock_destroy pthread_rwlock_init pthread_rwlock_rdlock pthread_rwlock_timedrdlock
  pthread_rwlock_timedwrlock pthread_rwlock_tryrdlock pthread_rwlock_trywrlock
  pthread_rwlock_unlock pthread_rwlock_wrlock pthread_rwlockattr_destroy
  pthread_rwlockattr_getkind_np pthread_rwlockattr_getpshared pthread_rwlockattr_init
  pthread_rwlockattr_setkind_np pthread_rwlockattr_setpshared pthread_self pthread_setaffinity_np
  pthread_setattr_default_np pthread_setcancelstate pthread_setcanceltype pthread_setconcurrency
  pthread_setname_np pthread_setschedparam pthread_setschedprio pthread_setspecific
  pthread_sigmask pthread_sigqueue pthread_spin_destroy pthread_spin_init pthread_spin_lock
  pthread_spin_trylock pthread_spin_unlock pthread_testcancel pthread_timedjoin_np
  pthread_tryjoin_np ptrace ptsname ptsname_r putc putc_unlocked putchar putchar_unlocked putenv
  putgrent putpwent puts putsgent putspent pututline pututxline putw putwc putwc_unlocked
  putwchar putwchar_unlocked pvalloc pwrite pwrite64 pwritev pwritev2 pwritev64 pwritev64v2 qecvt
  qecvt_r qfcvt qfcvt_r qgcvt qsort qsort_r quick_exit quotactl raise rand rand_r random random_r
  rawmemchr rcmd rcmd_af re_comp re_compile_fastmap re_compile_pattern re_exec re_match
  re_match_2 re_search re_search_2 re_set_registers re_set_syntax read readahead readdir
  readdir64 readdir64_r readdir_r readlink readlinkat readv realloc reallocarray realpath reboot
  recv recvfrom recvmmsg recvmsg regcomp regerror regexec regfree register_printf_function
  register_printf_modifier register_printf_specifier register_printf_type remap_file_pages remove
  removexattr remque rename renameat renameat2 res_dnok res_hnok res_mailok res_mkquery
  res_nmkquery res_nquery res_nquerydomain res_nsearch res_nsend res_ownok res_query
  res_querydomain res_search res_send revoke rewind rewinddir rexec rexec_af rindex rmdir rpmatch
  rresvport rresvport_af ruserok ruserok_af ruserpass sbrk scalbn scalbnf scalbnl scandir
  scandir64 scandirat scandirat64 scanf sched_get_priority_max sched_get_priority_min
  sched_getaffinity sched_getcpu sched_getparam sched_getscheduler sched_rr_get_interval
  sched_setaffinity sched_setparam sched_setscheduler sched_yield secure_getenv seed48 seed48_r
  seekdir select sem_clockwait sem_close sem_destroy sem_getvalue sem_init sem_open sem_post
  sem_timedwait sem_trywait sem_unlink sem_wait semctl semget semop semtimedop send sendfile
  sendfile64 sendmmsg sendmsg sendto setaliasent setbuf setbuffer setcontext setdomainname
  setegid setenv seteuid setfsent setfsgid setfsuid setgid setgrent setgroups sethostent
  sethostid sethostname setipv4sourcefilter setitimer setjmp setlinebuf setlocale setlogin
  setlogmask setmntent setnetent setnetgrent setns setpgid setpgrp setpriority setprotoent
  setpwent setregid setresgid setresuid setreuid setrlimit setrlimit64 setrpcent setservent
  setsgent setsid setsockopt setsourcefilter setspent setstate setstate_r settimeofday setttyent
  setuid setusershell setutent setutxent setvbuf setxattr sgetsgent sgetsgent_r sgetspent
  sgetspent_r shm_open shm_unlink shmat shmctl shmdt shmget shutdown sigabbrev_np sigaction
  sigaddset sigaltstack sigandset sigblock sigdelset sigdescr_np sigemptyset sigfillset
  siggetmask sighold sigignore siginterrupt sigisemptyset sigismember siglongjmp signal signalfd
  sigorset sigpause sigpending sigprocmask sigqueue sigrelse sigreturn sigset sigsetmask sigstack
  sigsuspend sigtimedwait sigwait sigwaitinfo sleep snprintf sockatmark socket socketpair splice
  sprintf sprofil srand srand48 srand48_r srandom srandom_r sscanf ssignal stat stat64 statfs
  statfs64 statvfs statvfs64 statx stpcpy stpncpy strcasecmp strcasecmp_l strcasestr strcat
  strchr strchrnul strcmp strcoll strcoll_l strcpy strcspn strdup strerror strerror_l strerror_r
  strerrordesc_np strerrorname_np strfmon strfmon_l strfromd strfromf strfromf128 strfromf32
  strfromf32x strfromf64 strfromf64x strfroml strfry strftime strftime_l strlen strncasecmp
  strncasecmp_l strncat strncmp strncpy strndup strnlen strpbrk strptime strptime_l strrchr
  strsep strsignal strspn strstr strtod strtod_l strtof strtof128 strtof128_l strtof32 strtof32_l
  strtof32x strtof32x_l strtof64 strtof64_l strtof64x strtof64x_l strtof_l strtoimax strtok
  strtok_r strtol strtol_l strtold strtold_l strtoll strtoll_l strtoq strtoul strtoul_l strtoull
  strtoull_l strtoumax strtouq strverscmp strxfrm strxfrm_l stty swab swapcontext swapoff swapon
  swprintf swscanf symlink symlinkat sync sync_file_range syncfs syscall sysconf sysinfo syslog
  system sysv_signal tcdrain tcflow tcflush tcgetattr tcgetpgrp tcgetsid tcsendbreak tcsetattr
  tcsetpgrp tdelete tdestroy tee telldir tempnam textdomain tfind tgkill thrd_create thrd_current
  thrd_detach thrd_equal thrd_exit thrd_join thrd_sleep thrd_yield time timegm timelocal
  timer_create timer_delete timer_getoverrun timer_gettime timer_settime timerfd_create
  timerfd_gettime timerfd_settime times timespec_get timespec_getres tmpfile tmpfile64 tmpnam
  tmpnam_r toascii tolower tolower_l toupper toupper_l towctrans towctrans_l towlower towlower_l
  towupper towupper_l truncate truncate64 tsearch tss_create tss_delete tss_get tss_set ttyname
  ttyname_r ttyslot twalk twalk_r tzset ualarm ulckpwdf ulimit umask umount umount2 uname ungetc
  ungetwc unlink unlinkat unlockpt unsetenv unshare updwtmp updwtmpx uselocale usleep utime
  utimensat utimes utmpname utmpxname valloc vasprintf vdprintf verr verrx versionsort
  versionsort64 vfork vfprintf vfscanf vfwprintf vfwscanf vhangup vlimit vmsplice vprintf vscanf
  vsnprintf vsprintf vsscanf vswprintf vswscanf vsyslog vwarn vwarnx vwprintf vwscanf wait wait3
  wait4 waitid waitpid warn warnx wcpcpy wcpncpy wcrtomb wcscasecmp wcscasecmp_l wcscat wcschr
  wcschrnul wcscmp wcscoll wcscoll_l wcscpy wcscspn wcsdup wcsftime wcsftime_l wcslen wcsncasecmp
  wcsncasecmp_l wcsncat wcsncmp wcsncpy wcsnlen wcsnrtombs wcspbrk wcsrchr wcsrtombs wcsspn
  wcsstr wcstod wcstod_l wcstof wcstof128 wcstof128_l wcstof32 wcstof32_l wcstof32x wcstof32x_l
  wcstof64 wcstof64_l wcstof64x wcstof64x_l wcstof_l wcstoimax wcstok wcstol wcstol_l wcstold
  wcstold_l wcstoll wcstoll_l wcstombs wcstoq wcstoul wcstoul_l wcstoull wcstoull_l wcstoumax
  wcstouq wcswcs wcswidth wcsxfrm wcsxfrm_l wctob wctomb wctrans wctrans_l wctype wctype_l
  wcwidth wmemchr wmemcmp wmemcpy wmemmove wmempcpy wmemset wordexp wordfree wprintf write writev
  wscanf"

/-- The marks of versions of the C library. -/
def cMarks : List String := split "
  GLIBC_2.10 GLIBC_2.11 GLIBC_2.12 GLIBC_2.13 GLIBC_2.14 GLIBC_2.15 GLIBC_2.16 GLIBC_2.17
  GLIBC_2.18 GLIBC_2.2.5 GLIBC_2.2.6 GLIBC_2.22 GLIBC_2.23 GLIBC_2.24 GLIBC_2.25 GLIBC_2.26
  GLIBC_2.27 GLIBC_2.28 GLIBC_2.29 GLIBC_2.3 GLIBC_2.3.2 GLIBC_2.3.3 GLIBC_2.3.4 GLIBC_2.30
  GLIBC_2.31 GLIBC_2.32 GLIBC_2.33 GLIBC_2.34 GLIBC_2.35 GLIBC_2.36 GLIBC_2.4 GLIBC_2.5 GLIBC_2.6
  GLIBC_2.7 GLIBC_2.8 GLIBC_2.9 GLIBC_ABI_DT_RELR GLIBC_PRIVATE"

/-- The data of the C library. -/
def cData : List (String × Nat) := sized (split "
  _IO_2_1_stderr_ 224 _IO_2_1_stdin_ 224 _IO_2_1_stdout_ 224 _IO_file_jumps 168 _IO_list_all 8
  _IO_wfile_jumps 168 __abort_msg 8 __check_rhosts_file 4 __curbrk 8 __daylight 4 __environ 8
  __fpu_control 2 __h_errno 4 __libc_dlerror_result 8 __libc_single_threaded 1
  __nptl_last_event 8 __nptl_nthreads 4 __nptl_rtld_global 8 __nptl_threads_events 8
  __nptl_version 5 __progname 8 __progname_full 8 __pthread_keys 16384 __rcmd_errstr 8 __resp 8
  __timezone 8 __tzname 16 _environ 8 _itoa_lower_digits 36 _libc_intl_domainname 5
  _nl_default_dirname 18 _nl_domain_bindings 8 _nl_msg_cat_cntr 4 _res_hconf 72
  argp_err_exit_status 4 argp_program_bug_address 8 argp_program_version 8
  argp_program_version_hook 8 daylight 4 environ 8 errno 4 error_message_count 4
  error_one_per_line 4 error_print_progname 8 getdate_err 4 h_errlist 40 h_nerr 4 in6addr_any 16
  in6addr_loopback 16 obstack_alloc_failed_handler 8 obstack_exit_failure 4 optarg 8 opterr 4
  optind 4 optopt 4 program_invocation_name 8 program_invocation_short_name 8 re_max_failures 4
  re_syntax_options 8 rexecoptions 4 stderr 8 stdin 8 stdout 8 timezone 8 tzname 16")

/-- The functions of the library of fractions. -/
def mFunctions : List String := split "
  __clog10 __clog10f __clog10l __finite __finitef __finitef128 __finitel __fpclassify
  __fpclassifyf __fpclassifyf128 __fpclassifyl __iscanonicall __iseqsig __iseqsigf __iseqsigf128
  __iseqsigl __isinff128 __issignaling __issignalingf __issignalingf128 __issignalingl __signbit
  __signbitf __signbitf128 __signbitl acos acosf acosf128 acosf32 acosf32x acosf64 acosf64x acosh
  acoshf acoshf128 acoshf32 acoshf32x acoshf64 acoshf64x acoshl acosl asin asinf asinf128 asinf32
  asinf32x asinf64 asinf64x asinh asinhf asinhf128 asinhf32 asinhf32x asinhf64 asinhf64x asinhl
  asinl atan atan2 atan2f atan2f128 atan2f32 atan2f32x atan2f64 atan2f64x atan2l atanf atanf128
  atanf32 atanf32x atanf64 atanf64x atanh atanhf atanhf128 atanhf32 atanhf32x atanhf64 atanhf64x
  atanhl atanl cabs cabsf cabsf128 cabsf32 cabsf32x cabsf64 cabsf64x cabsl cacos cacosf cacosf128
  cacosf32 cacosf32x cacosf64 cacosf64x cacosh cacoshf cacoshf128 cacoshf32 cacoshf32x cacoshf64
  cacoshf64x cacoshl cacosl canonicalize canonicalizef canonicalizef128 canonicalizef32
  canonicalizef32x canonicalizef64 canonicalizef64x canonicalizel carg cargf cargf128 cargf32
  cargf32x cargf64 cargf64x cargl casin casinf casinf128 casinf32 casinf32x casinf64 casinf64x
  casinh casinhf casinhf128 casinhf32 casinhf32x casinhf64 casinhf64x casinhl casinl catan catanf
  catanf128 catanf32 catanf32x catanf64 catanf64x catanh catanhf catanhf128 catanhf32 catanhf32x
  catanhf64 catanhf64x catanhl catanl cbrt cbrtf cbrtf128 cbrtf32 cbrtf32x cbrtf64 cbrtf64x cbrtl
  ccos ccosf ccosf128 ccosf32 ccosf32x ccosf64 ccosf64x ccosh ccoshf ccoshf128 ccoshf32 ccoshf32x
  ccoshf64 ccoshf64x ccoshl ccosl ceil ceilf ceilf128 ceilf32 ceilf32x ceilf64 ceilf64x ceill
  cexp cexpf cexpf128 cexpf32 cexpf32x cexpf64 cexpf64x cexpl cimag cimagf cimagf128 cimagf32
  cimagf32x cimagf64 cimagf64x cimagl clog clog10 clog10f clog10f128 clog10f32 clog10f32x
  clog10f64 clog10f64x clog10l clogf clogf128 clogf32 clogf32x clogf64 clogf64x clogl conj conjf
  conjf128 conjf32 conjf32x conjf64 conjf64x conjl copysign copysignf copysignf128 copysignf32
  copysignf32x copysignf64 copysignf64x copysignl cos cosf cosf128 cosf32 cosf32x cosf64 cosf64x
  cosh coshf coshf128 coshf32 coshf32x coshf64 coshf64x coshl cosl cpow cpowf cpowf128 cpowf32
  cpowf32x cpowf64 cpowf64x cpowl cproj cprojf cprojf128 cprojf32 cprojf32x cprojf64 cprojf64x
  cprojl creal crealf crealf128 crealf32 crealf32x crealf64 crealf64x creall csin csinf csinf128
  csinf32 csinf32x csinf64 csinf64x csinh csinhf csinhf128 csinhf32 csinhf32x csinhf64 csinhf64x
  csinhl csinl csqrt csqrtf csqrtf128 csqrtf32 csqrtf32x csqrtf64 csqrtf64x csqrtl ctan ctanf
  ctanf128 ctanf32 ctanf32x ctanf64 ctanf64x ctanh ctanhf ctanhf128 ctanhf32 ctanhf32x ctanhf64
  ctanhf64x ctanhl ctanl daddl ddivl dfmal dmull drem dremf dreml dsqrtl dsubl erf erfc erfcf
  erfcf128 erfcf32 erfcf32x erfcf64 erfcf64x erfcl erff erff128 erff32 erff32x erff64 erff64x
  erfl exp exp10 exp10f exp10f128 exp10f32 exp10f32x exp10f64 exp10f64x exp10l exp2 exp2f
  exp2f128 exp2f32 exp2f32x exp2f64 exp2f64x exp2l expf expf128 expf32 expf32x expf64 expf64x
  expl expm1 expm1f expm1f128 expm1f32 expm1f32x expm1f64 expm1f64x expm1l f32addf128 f32addf32x
  f32addf64 f32addf64x f32divf128 f32divf32x f32divf64 f32divf64x f32fmaf128 f32fmaf32x f32fmaf64
  f32fmaf64x f32mulf128 f32mulf32x f32mulf64 f32mulf64x f32sqrtf128 f32sqrtf32x f32sqrtf64
  f32sqrtf64x f32subf128 f32subf32x f32subf64 f32subf64x f32xaddf128 f32xaddf64 f32xaddf64x
  f32xdivf128 f32xdivf64 f32xdivf64x f32xfmaf128 f32xfmaf64 f32xfmaf64x f32xmulf128 f32xmulf64
  f32xmulf64x f32xsqrtf128 f32xsqrtf64 f32xsqrtf64x f32xsubf128 f32xsubf64 f32xsubf64x f64addf128
  f64addf64x f64divf128 f64divf64x f64fmaf128 f64fmaf64x f64mulf128 f64mulf64x f64sqrtf128
  f64sqrtf64x f64subf128 f64subf64x f64xaddf128 f64xdivf128 f64xfmaf128 f64xmulf128 f64xsqrtf128
  f64xsubf128 fabs fabsf fabsf128 fabsf32 fabsf32x fabsf64 fabsf64x fabsl fadd faddl fdim fdimf
  fdimf128 fdimf32 fdimf32x fdimf64 fdimf64x fdiml fdiv fdivl feclearexcept fedisableexcept
  feenableexcept fegetenv fegetexcept fegetexceptflag fegetmode fegetround feholdexcept
  feraiseexcept fesetenv fesetexcept fesetexceptflag fesetmode fesetround fetestexcept
  fetestexceptflag feupdateenv ffma ffmal finite finitef finitel floor floorf floorf128 floorf32
  floorf32x floorf64 floorf64x floorl fma fmaf fmaf128 fmaf32 fmaf32x fmaf64 fmaf64x fmal fmax
  fmaxf fmaxf128 fmaxf32 fmaxf32x fmaxf64 fmaxf64x fmaximum fmaximum_mag fmaximum_mag_num
  fmaximum_mag_numf fmaximum_mag_numf128 fmaximum_mag_numf32 fmaximum_mag_numf32x
  fmaximum_mag_numf64 fmaximum_mag_numf64x fmaximum_mag_numl fmaximum_magf fmaximum_magf128
  fmaximum_magf32 fmaximum_magf32x fmaximum_magf64 fmaximum_magf64x fmaximum_magl fmaximum_num
  fmaximum_numf fmaximum_numf128 fmaximum_numf32 fmaximum_numf32x fmaximum_numf64
  fmaximum_numf64x fmaximum_numl fmaximumf fmaximumf128 fmaximumf32 fmaximumf32x fmaximumf64
  fmaximumf64x fmaximuml fmaxl fmaxmag fmaxmagf fmaxmagf128 fmaxmagf32 fmaxmagf32x fmaxmagf64
  fmaxmagf64x fmaxmagl fmin fminf fminf128 fminf32 fminf32x fminf64 fminf64x fminimum
  fminimum_mag fminimum_mag_num fminimum_mag_numf fminimum_mag_numf128 fminimum_mag_numf32
  fminimum_mag_numf32x fminimum_mag_numf64 fminimum_mag_numf64x fminimum_mag_numl fminimum_magf
  fminimum_magf128 fminimum_magf32 fminimum_magf32x fminimum_magf64 fminimum_magf64x
  fminimum_magl fminimum_num fminimum_numf fminimum_numf128 fminimum_numf32 fminimum_numf32x
  fminimum_numf64 fminimum_numf64x fminimum_numl fminimumf fminimumf128 fminimumf32 fminimumf32x
  fminimumf64 fminimumf64x fminimuml fminl fminmag fminmagf fminmagf128 fminmagf32 fminmagf32x
  fminmagf64 fminmagf64x fminmagl fmod fmodf fmodf128 fmodf32 fmodf32x fmodf64 fmodf64x fmodl
  fmul fmull frexp frexpf frexpf128 frexpf32 frexpf32x frexpf64 frexpf64x frexpl fromfp fromfpf
  fromfpf128 fromfpf32 fromfpf32x fromfpf64 fromfpf64x fromfpl fromfpx fromfpxf fromfpxf128
  fromfpxf32 fromfpxf32x fromfpxf64 fromfpxf64x fromfpxl fsqrt fsqrtl fsub fsubl gamma gammaf
  gammal getpayload getpayloadf getpayloadf128 getpayloadf32 getpayloadf32x getpayloadf64
  getpayloadf64x getpayloadl hypot hypotf hypotf128 hypotf32 hypotf32x hypotf64 hypotf64x hypotl
  ilogb ilogbf ilogbf128 ilogbf32 ilogbf32x ilogbf64 ilogbf64x ilogbl j0 j0f j0f128 j0f32 j0f32x
  j0f64 j0f64x j0l j1 j1f j1f128 j1f32 j1f32x j1f64 j1f64x j1l jn jnf jnf128 jnf32 jnf32x jnf64
  jnf64x jnl ldexp ldexpf ldexpf128 ldexpf32 ldexpf32x ldexpf64 ldexpf64x ldexpl lgamma lgamma_r
  lgammaf lgammaf128 lgammaf128_r lgammaf32 lgammaf32_r lgammaf32x lgammaf32x_r lgammaf64
  lgammaf64_r lgammaf64x lgammaf64x_r lgammaf_r lgammal lgammal_r llogb llogbf llogbf128 llogbf32
  llogbf32x llogbf64 llogbf64x llogbl llrint llrintf llrintf128 llrintf32 llrintf32x llrintf64
  llrintf64x llrintl llround llroundf llroundf128 llroundf32 llroundf32x llroundf64 llroundf64x
  llroundl log log10 log10f log10f128 log10f32 log10f32x log10f64 log10f64x log10l log1p log1pf
  log1pf128 log1pf32 log1pf32x log1pf64 log1pf64x log1pl log2 log2f log2f128 log2f32 log2f32x
  log2f64 log2f64x log2l logb logbf logbf128 logbf32 logbf32x logbf64 logbf64x logbl logf logf128
  logf32 logf32x logf64 logf64x logl lrint lrintf lrintf128 lrintf32 lrintf32x lrintf64 lrintf64x
  lrintl lround lroundf lroundf128 lroundf32 lroundf32x lroundf64 lroundf64x lroundl modf modff
  modff128 modff32 modff32x modff64 modff64x modfl nan nanf nanf128 nanf32 nanf32x nanf64 nanf64x
  nanl nearbyint nearbyintf nearbyintf128 nearbyintf32 nearbyintf32x nearbyintf64 nearbyintf64x
  nearbyintl nextafter nextafterf nextafterf128 nextafterf32 nextafterf32x nextafterf64
  nextafterf64x nextafterl nextdown nextdownf nextdownf128 nextdownf32 nextdownf32x nextdownf64
  nextdownf64x nextdownl nexttoward nexttowardf nexttowardl nextup nextupf nextupf128 nextupf32
  nextupf32x nextupf64 nextupf64x nextupl pow powf powf128 powf32 powf32x powf64 powf64x powl
  remainder remainderf remainderf128 remainderf32 remainderf32x remainderf64 remainderf64x
  remainderl remquo remquof remquof128 remquof32 remquof32x remquof64 remquof64x remquol rint
  rintf rintf128 rintf32 rintf32x rintf64 rintf64x rintl round roundeven roundevenf roundevenf128
  roundevenf32 roundevenf32x roundevenf64 roundevenf64x roundevenl roundf roundf128 roundf32
  roundf32x roundf64 roundf64x roundl scalb scalbf scalbl scalbln scalblnf scalblnf128 scalblnf32
  scalblnf32x scalblnf64 scalblnf64x scalblnl scalbn scalbnf scalbnf128 scalbnf32 scalbnf32x
  scalbnf64 scalbnf64x scalbnl setpayload setpayloadf setpayloadf128 setpayloadf32 setpayloadf32x
  setpayloadf64 setpayloadf64x setpayloadl setpayloadsig setpayloadsigf setpayloadsigf128
  setpayloadsigf32 setpayloadsigf32x setpayloadsigf64 setpayloadsigf64x setpayloadsigl
  significand significandf significandl sin sincos sincosf sincosf128 sincosf32 sincosf32x
  sincosf64 sincosf64x sincosl sinf sinf128 sinf32 sinf32x sinf64 sinf64x sinh sinhf sinhf128
  sinhf32 sinhf32x sinhf64 sinhf64x sinhl sinl sqrt sqrtf sqrtf128 sqrtf32 sqrtf32x sqrtf64
  sqrtf64x sqrtl tan tanf tanf128 tanf32 tanf32x tanf64 tanf64x tanh tanhf tanhf128 tanhf32
  tanhf32x tanhf64 tanhf64x tanhl tanl tgamma tgammaf tgammaf128 tgammaf32 tgammaf32x tgammaf64
  tgammaf64x tgammal totalorder totalorderf totalorderf128 totalorderf32 totalorderf32x
  totalorderf64 totalorderf64x totalorderl totalordermag totalordermagf totalordermagf128
  totalordermagf32 totalordermagf32x totalordermagf64 totalordermagf64x totalordermagl trunc
  truncf truncf128 truncf32 truncf32x truncf64 truncf64x truncl ufromfp ufromfpf ufromfpf128
  ufromfpf32 ufromfpf32x ufromfpf64 ufromfpf64x ufromfpl ufromfpx ufromfpxf ufromfpxf128
  ufromfpxf32 ufromfpxf32x ufromfpxf64 ufromfpxf64x ufromfpxl y0 y0f y0f128 y0f32 y0f32x y0f64
  y0f64x y0l y1 y1f y1f128 y1f32 y1f32x y1f64 y1f64x y1l yn ynf ynf128 ynf32 ynf32x ynf64 ynf64x
  ynl"

/-- The marks of versions of the library of fractions. -/
def mMarks : List String := split "
  GLIBC_2.15 GLIBC_2.18 GLIBC_2.2.5 GLIBC_2.23 GLIBC_2.24 GLIBC_2.25 GLIBC_2.26 GLIBC_2.27
  GLIBC_2.28 GLIBC_2.29 GLIBC_2.31 GLIBC_2.32 GLIBC_2.35 GLIBC_2.4"

/-- The data of the library of fractions. -/
def mData : List (String × Nat) := sized (split "
  __signgam 4 signgam 4")

/-- The functions of the library that unwinds stacks. -/
def unwindingFunctions : List String := split "
  _Unwind_Backtrace _Unwind_DeleteException _Unwind_FindEnclosingFunction _Unwind_Find_FDE
  _Unwind_ForcedUnwind _Unwind_GetCFA _Unwind_GetDataRelBase _Unwind_GetGR _Unwind_GetIP
  _Unwind_GetIPInfo _Unwind_GetLanguageSpecificData _Unwind_GetRegionStart _Unwind_GetTextRelBase
  _Unwind_RaiseException _Unwind_Resume _Unwind_Resume_or_Rethrow _Unwind_SetGR _Unwind_SetIP
  __absvdi2 __absvsi2 __absvti2 __addtf3 __addvdi3 __addvsi3 __addvti3 __ashlti3 __ashrti3
  __bswapdi2 __bswapsi2 __clear_cache __clrsbdi2 __clrsbti2 __clzdi2 __clzti2 __cmpti2 __ctzdi2
  __ctzti2 __deregister_frame __deregister_frame_info __deregister_frame_info_bases __divdc3
  __divhc3 __divmodti4 __divsc3 __divtc3 __divtf3 __divti3 __divxc3 __emutls_get_address
  __emutls_register_common __enable_execute_stack __eqhf2 __eqtf2 __extenddftf2 __extendhfdf2
  __extendhfsf2 __extendhftf2 __extendhfxf2 __extendsfdf2 __extendsftf2 __extendxftf2 __ffsdi2
  __ffsti2 __fixdfti __fixhfti __fixsfti __fixtfdi __fixtfsi __fixtfti __fixunsdfdi __fixunsdfti
  __fixunshfti __fixunssfdi __fixunssfti __fixunstfdi __fixunstfsi __fixunstfti __fixunsxfdi
  __fixunsxfti __fixxfti __floatditf __floatsitf __floattidf __floattihf __floattisf __floattitf
  __floattixf __floatunditf __floatunsitf __floatuntidf __floatuntihf __floatuntisf __floatuntitf
  __floatuntixf __gcc_personality_v0 __getf2 __gttf2 __letf2 __lshrti3 __lttf2 __modti3 __muldc3
  __mulhc3 __mulsc3 __multc3 __multf3 __multi3 __mulvdi3 __mulvsi3 __mulvti3 __mulxc3 __negtf2
  __negti2 __negvdi2 __negvsi2 __negvti2 __nehf2 __netf2 __paritydi2 __parityti2 __popcountdi2
  __popcountti2 __powidf2 __powisf2 __powitf2 __powixf2 __register_frame __register_frame_info
  __register_frame_info_bases __register_frame_info_table __register_frame_info_table_bases
  __register_frame_table __subtf3 __subvdi3 __subvsi3 __subvti3 __truncdfhf2 __truncdfsf2
  __truncsfhf2 __trunctfdf2 __trunctfhf2 __trunctfsf2 __trunctfxf2 __truncxfhf2 __ucmpti2
  __udivmodti4 __udivti3 __umodti3 __unordtf2"

/-- The marks of versions of the library that unwinds stacks. -/
def unwindingMarks : List String := split "
  GCC_12.0.0 GCC_3.0 GCC_3.3 GCC_3.3.1 GCC_3.4 GCC_3.4.2 GCC_3.4.4 GCC_4.0.0 GCC_4.2.0 GCC_4.3.0
  GCC_4.7.0 GCC_4.8.0 GCC_7.0.0"

/-- The functions of the loader. -/
def loaderFunctions : List String := split "
  __nptl_change_stack_perm __tls_get_addr __tunable_get_val __tunable_is_initialized
  _dl_allocate_tls _dl_allocate_tls_init _dl_audit_preinit _dl_audit_symbind_alt
  _dl_catch_exception _dl_deallocate_tls _dl_debug_state _dl_exception_create
  _dl_exception_create_format _dl_exception_free _dl_fatal_printf _dl_find_dso_for_object
  _dl_get_tls_static_info _dl_mcount _dl_rtld_di_serinfo _dl_signal_error _dl_signal_exception
  _dl_x86_get_cpu_features"

/-- The marks of versions of the loader. -/
def loaderMarks : List String := split "
  GLIBC_2.2.5 GLIBC_2.3 GLIBC_2.34 GLIBC_2.35 GLIBC_2.4 GLIBC_PRIVATE"

/-- The data of the loader. -/
def loaderData : List (String × Nat) := sized (split "
  __libc_enable_secure 4 __libc_stack_end 8 __nptl_initial_report_events 1 __rseq_flags 4
  __rseq_offset 8 __rseq_size 4 _dl_argv 8 _r_debug 40 _rtld_global 4352 _rtld_global_ro 952")

/-- The functions of the C++ library. -/
def cxxFunctions : List String := split "
  _ZGTtNKSt11logic_error4whatEv _ZGTtNKSt13bad_exception4whatEv _ZGTtNKSt13bad_exceptionD1Ev
  _ZGTtNKSt13runtime_error4whatEv _ZGTtNKSt9exception4whatEv _ZGTtNKSt9exceptionD1Ev
  _ZGTtNSt11logic_errorC1EPKc _ZGTtNSt11logic_errorC2EPKc _ZGTtNSt11logic_errorD0Ev
  _ZGTtNSt11logic_errorD1Ev _ZGTtNSt11logic_errorD2Ev _ZGTtNSt11range_errorC1EPKc
  _ZGTtNSt11range_errorC2EPKc _ZGTtNSt11range_errorD0Ev _ZGTtNSt11range_errorD1Ev
  _ZGTtNSt11range_errorD2Ev _ZGTtNSt12domain_errorC1EPKc _ZGTtNSt12domain_errorC2EPKc
  _ZGTtNSt12domain_errorD0Ev _ZGTtNSt12domain_errorD1Ev _ZGTtNSt12domain_errorD2Ev
  _ZGTtNSt12length_errorC1EPKc _ZGTtNSt12length_errorC2EPKc _ZGTtNSt12length_errorD0Ev
  _ZGTtNSt12length_errorD1Ev _ZGTtNSt12length_errorD2Ev _ZGTtNSt12out_of_rangeC1EPKc
  _ZGTtNSt12out_of_rangeC2EPKc _ZGTtNSt12out_of_rangeD0Ev _ZGTtNSt12out_of_rangeD1Ev
  _ZGTtNSt12out_of_rangeD2Ev _ZGTtNSt13runtime_errorC1EPKc _ZGTtNSt13runtime_errorC2EPKc
  _ZGTtNSt13runtime_errorD0Ev _ZGTtNSt13runtime_errorD1Ev _ZGTtNSt13runtime_errorD2Ev
  _ZGTtNSt14overflow_errorC1EPKc _ZGTtNSt14overflow_errorC2EPKc _ZGTtNSt14overflow_errorD0Ev
  _ZGTtNSt14overflow_errorD1Ev _ZGTtNSt14overflow_errorD2Ev _ZGTtNSt15underflow_errorC1EPKc
  _ZGTtNSt15underflow_errorC2EPKc _ZGTtNSt15underflow_errorD0Ev _ZGTtNSt15underflow_errorD1Ev
  _ZGTtNSt15underflow_errorD2Ev _ZGTtNSt16invalid_argumentC1EPKc _ZGTtNSt16invalid_argumentC2EPKc
  _ZGTtNSt16invalid_argumentD0Ev _ZGTtNSt16invalid_argumentD1Ev _ZGTtNSt16invalid_argumentD2Ev
  _ZN10__cxxabiv116__enum_type_infoD0Ev _ZN10__cxxabiv116__enum_type_infoD1Ev
  _ZN10__cxxabiv116__enum_type_infoD2Ev _ZN10__cxxabiv117__array_type_infoD0Ev
  _ZN10__cxxabiv117__array_type_infoD1Ev _ZN10__cxxabiv117__array_type_infoD2Ev
  _ZN10__cxxabiv117__class_type_infoD0Ev _ZN10__cxxabiv117__class_type_infoD1Ev
  _ZN10__cxxabiv117__class_type_infoD2Ev _ZN10__cxxabiv117__pbase_type_infoD0Ev
  _ZN10__cxxabiv117__pbase_type_infoD1Ev _ZN10__cxxabiv117__pbase_type_infoD2Ev
  _ZN10__cxxabiv119__pointer_type_infoD0Ev _ZN10__cxxabiv119__pointer_type_infoD1Ev
  _ZN10__cxxabiv119__pointer_type_infoD2Ev _ZN14__gnu_parallel9_Settings3getEv
  _ZN14__gnu_parallel9_Settings3setERS0_ _ZN9__gnu_cxx12__atomic_addEPVii
  _ZN9__gnu_cxx18__exchange_and_addEPVii _ZN9__gnu_cxx6__poolILb0EE10_M_destroyEv
  _ZN9__gnu_cxx6__poolILb1EE10_M_destroyEv _ZN9__gnu_cxx9__freeresEv
  _ZN9__gnu_cxx9free_list6_M_getEm _ZN9__gnu_cxx9free_list8_M_clearEv
  _ZNKSbIwSt11char_traitsIwESaIwEE2atEm _ZNKSbIwSt11char_traitsIwESaIwEE3endEv
  _ZNKSbIwSt11char_traitsIwESaIwEE4backEv _ZNKSbIwSt11char_traitsIwESaIwEE4cendEv
  _ZNKSbIwSt11char_traitsIwESaIwEE4dataEv _ZNKSbIwSt11char_traitsIwESaIwEE4findEwm
  _ZNKSbIwSt11char_traitsIwESaIwEE4rendEv _ZNKSbIwSt11char_traitsIwESaIwEE4sizeEv
  _ZNKSbIwSt11char_traitsIwESaIwEE5beginEv _ZNKSbIwSt11char_traitsIwESaIwEE5c_strEv
  _ZNKSbIwSt11char_traitsIwESaIwEE5crendEv _ZNKSbIwSt11char_traitsIwESaIwEE5emptyEv
  _ZNKSbIwSt11char_traitsIwESaIwEE5frontEv _ZNKSbIwSt11char_traitsIwESaIwEEixEm _ZNKSi6gcountEv
  _ZNKSi6sentrycvbEv _ZNKSo6sentrycvbEv _ZNKSs11_M_disjunctEPKc _ZNKSs12find_last_ofEPKcm
  _ZNKSs12find_last_ofEPKcmm _ZNKSs12find_last_ofERKSsm _ZNKSs12find_last_ofEcm
  _ZNKSs13find_first_ofEPKcm _ZNKSs13find_first_ofEPKcmm _ZNKSs13find_first_ofERKSsm
  _ZNKSs13find_first_ofEcm _ZNKSs13get_allocatorEv _ZNKSs15_M_check_lengthEmmPKc
  _ZNKSs16find_last_not_ofEPKcm _ZNKSs16find_last_not_ofEPKcmm _ZNKSs16find_last_not_ofERKSsm
  _ZNKSs16find_last_not_ofEcm _ZNKSs17find_first_not_ofEPKcm _ZNKSs17find_first_not_ofEPKcmm
  _ZNKSs17find_first_not_ofERKSsm _ZNKSs17find_first_not_ofEcm _ZNKSs2atEm _ZNKSs3endEv
  _ZNKSs4_Rep12_M_is_leakedEv _ZNKSs4_Rep12_M_is_sharedEv _ZNKSs4backEv _ZNKSs4cendEv
  _ZNKSs4copyEPcmm _ZNKSs4dataEv _ZNKSs4findEPKcm _ZNKSs4findEPKcmm _ZNKSs4findERKSsm
  _ZNKSs4findEcm _ZNKSs4rendEv _ZNKSs4sizeEv _ZNKSs5beginEv _ZNKSs5c_strEv _ZNKSs5crendEv
  _ZNKSs5emptyEv _ZNKSs5frontEv _ZNKSs5rfindEPKcm _ZNKSs5rfindEPKcmm _ZNKSs5rfindERKSsm
  _ZNKSs5rfindEcm _ZNKSs6_M_repEv _ZNKSs6cbeginEv _ZNKSs6lengthEv _ZNKSs6rbeginEv
  _ZNKSs6substrEmm _ZNKSs7_M_dataEv _ZNKSs7_M_iendEv _ZNKSs7compareEPKc _ZNKSs7compareERKSs
  _ZNKSs7compareEmmPKc _ZNKSs7compareEmmPKcm _ZNKSs7compareEmmRKSs _ZNKSs7compareEmmRKSsmm
  _ZNKSs7crbeginEv _ZNKSs8_M_checkEmPKc _ZNKSs8_M_limitEmm _ZNKSs8capacityEv _ZNKSs8max_sizeEv
  _ZNKSs9_M_ibeginEv _ZNKSsixEm _ZNKSt10bad_typeid4whatEv _ZNKSt10filesystem4path11parent_pathEv
  _ZNKSt10filesystem4path12has_filenameEv _ZNKSt10filesystem4path13has_root_nameEv
  _ZNKSt10filesystem4path13has_root_pathEv _ZNKSt10filesystem4path13relative_pathEv
  _ZNKSt10filesystem4path5_List3endEv _ZNKSt10filesystem4path5_List5beginEv
  _ZNKSt10filesystem4path7compareERKS0_ _ZNKSt10filesystem4path9root_nameEv
  _ZNKSt10filesystem4path9root_pathEv _ZNKSt10istrstream5rdbufEv _ZNKSt10lock_error4whatEv
  _ZNKSt10moneypunctIcLb0EE10neg_formatEv _ZNKSt10moneypunctIcLb0EE10pos_formatEv
  _ZNKSt10moneypunctIcLb0EE11curr_symbolEv _ZNKSt10moneypunctIcLb0EE11do_groupingEv
  _ZNKSt10moneypunctIcLb0EE11frac_digitsEv _ZNKSt10moneypunctIcLb0EE8groupingEv
  _ZNKSt10moneypunctIcLb1EE10neg_formatEv _ZNKSt10moneypunctIcLb1EE10pos_formatEv
  _ZNKSt10moneypunctIcLb1EE11curr_symbolEv _ZNKSt10moneypunctIcLb1EE11do_groupingEv
  _ZNKSt10moneypunctIcLb1EE11frac_digitsEv _ZNKSt10moneypunctIcLb1EE8groupingEv
  _ZNKSt10moneypunctIwLb0EE10neg_formatEv _ZNKSt10moneypunctIwLb0EE10pos_formatEv
  _ZNKSt10moneypunctIwLb0EE11curr_symbolEv _ZNKSt10moneypunctIwLb0EE11do_groupingEv
  _ZNKSt10moneypunctIwLb0EE11frac_digitsEv _ZNKSt10moneypunctIwLb0EE8groupingEv
  _ZNKSt10moneypunctIwLb1EE10neg_formatEv _ZNKSt10moneypunctIwLb1EE10pos_formatEv
  _ZNKSt10moneypunctIwLb1EE11curr_symbolEv _ZNKSt10moneypunctIwLb1EE11do_groupingEv
  _ZNKSt10moneypunctIwLb1EE11frac_digitsEv _ZNKSt10moneypunctIwLb1EE8groupingEv
  _ZNKSt10ostrstream5rdbufEv _ZNKSt10ostrstream6pcountEv _ZNKSt11__timepunctIcE7_M_daysEPPKc
  _ZNKSt11__timepunctIcE8_M_am_pmEPPKc _ZNKSt11__timepunctIcE9_M_monthsEPPKc
  _ZNKSt11__timepunctIwE7_M_daysEPPKw _ZNKSt11__timepunctIwE8_M_am_pmEPPKw
  _ZNKSt11__timepunctIwE9_M_monthsEPPKw _ZNKSt11logic_error4whatEv
  _ZNKSt12__basic_fileIcE7is_openEv _ZNKSt12bad_weak_ptr4whatEv _ZNKSt12future_error4whatEv
  _ZNKSt12strstreambuf6pcountEv _ZNKSt13bad_exception4whatEv
  _ZNKSt13random_device13_M_getentropyEv _ZNKSt13runtime_error4whatEv
  _ZNKSt16bad_array_length4whatEv _ZNKSt17bad_function_call4whatEv
  _ZNKSt20bad_array_new_length4whatEv _ZNKSt3_V214error_category10_M_messageEi
  _ZNKSt3tr14hashIRKSsEclES2_ _ZNKSt3tr14hashISsEclESs _ZNKSt3tr14hashIeEclEe
  _ZNKSt4hashIRKSsEclES1_ _ZNKSt4hashISsEclESs _ZNKSt4hashISt10error_codeEclES0_
  _ZNKSt4hashIeEclEe _ZNKSt5ctypeIcE10do_tolowerEPcPKc _ZNKSt5ctypeIcE10do_tolowerEc
  _ZNKSt5ctypeIcE10do_toupperEPcPKc _ZNKSt5ctypeIcE10do_toupperEc
  _ZNKSt5ctypeIcE13_M_widen_initEv _ZNKSt5ctypeIcE14_M_narrow_initEv
  _ZNKSt5ctypeIcE8do_widenEPKcS2_Pc _ZNKSt5ctypeIcE8do_widenEc
  _ZNKSt5ctypeIcE9do_narrowEPKcS2_cPc _ZNKSt5ctypeIcE9do_narrowEcc
  _ZNKSt5ctypeIwE10do_scan_isEtPKwS2_ _ZNKSt5ctypeIwE10do_tolowerEPwPKw
  _ZNKSt5ctypeIwE10do_tolowerEw _ZNKSt5ctypeIwE10do_toupperEPwPKw _ZNKSt5ctypeIwE10do_toupperEw
  _ZNKSt5ctypeIwE11do_scan_notEtPKwS2_ _ZNKSt5ctypeIwE19_M_convert_to_wmaskEt
  _ZNKSt5ctypeIwE5do_isEPKwS2_Pt _ZNKSt5ctypeIwE5do_isEtw _ZNKSt5ctypeIwE8do_widenEPKcS2_Pw
  _ZNKSt5ctypeIwE8do_widenEc _ZNKSt5ctypeIwE9do_narrowEPKwS2_cPc _ZNKSt5ctypeIwE9do_narrowEwc
  _ZNKSt6locale2id5_M_idEv _ZNKSt6locale4nameB5cxx11Ev _ZNKSt6locale4nameEv _ZNKSt6localeeqERKS_
  _ZNKSt7__cxx117collateIcE4hashEPKcS3_ _ZNKSt7__cxx117collateIcE7do_hashEPKcS3_
  _ZNKSt7__cxx117collateIwE4hashEPKwS3_ _ZNKSt7__cxx117collateIwE7do_hashEPKwS3_
  _ZNKSt7__cxx118messagesIcE5closeEi _ZNKSt7__cxx118messagesIcE8do_closeEi
  _ZNKSt7__cxx118messagesIwE5closeEi _ZNKSt7__cxx118messagesIwE8do_closeEi
  _ZNKSt7__cxx118numpunctIcE8groupingEv _ZNKSt7__cxx118numpunctIcE8truenameEv
  _ZNKSt7__cxx118numpunctIcE9falsenameEv _ZNKSt7__cxx118numpunctIwE8groupingEv
  _ZNKSt7__cxx118numpunctIwE8truenameEv _ZNKSt7__cxx118numpunctIwE9falsenameEv
  _ZNKSt7collateIcE10_M_compareEPKcS2_ _ZNKSt7collateIcE12_M_transformEPcPKcm
  _ZNKSt7collateIcE12do_transformEPKcS2_ _ZNKSt7collateIcE4hashEPKcS2_
  _ZNKSt7collateIcE7compareEPKcS2_S2_S2_ _ZNKSt7collateIcE7do_hashEPKcS2_
  _ZNKSt7collateIcE9transformEPKcS2_ _ZNKSt7collateIwE10_M_compareEPKwS2_
  _ZNKSt7collateIwE12_M_transformEPwPKwm _ZNKSt7collateIwE12do_transformEPKwS2_
  _ZNKSt7collateIwE4hashEPKwS2_ _ZNKSt7collateIwE7compareEPKwS2_S2_S2_
  _ZNKSt7collateIwE7do_hashEPKwS2_ _ZNKSt7collateIwE9transformEPKwS2_ _ZNKSt8bad_cast4whatEv
  _ZNKSt8ios_base7failure4whatEv _ZNKSt8ios_base7failureB5cxx114whatEv
  _ZNKSt8messagesIcE3getEiiiRKSs _ZNKSt8messagesIcE4openERKSsRKSt6locale
  _ZNKSt8messagesIcE5closeEi _ZNKSt8messagesIcE6do_getEiiiRKSs _ZNKSt8messagesIcE8do_closeEi
  _ZNKSt8messagesIwE4openERKSsRKSt6locale _ZNKSt8messagesIwE5closeEi
  _ZNKSt8messagesIwE8do_closeEi _ZNKSt8numpunctIcE11do_groupingEv
  _ZNKSt8numpunctIcE11do_truenameEv _ZNKSt8numpunctIcE12do_falsenameEv
  _ZNKSt8numpunctIcE13decimal_pointEv _ZNKSt8numpunctIcE13thousands_sepEv
  _ZNKSt8numpunctIcE16do_decimal_pointEv _ZNKSt8numpunctIcE16do_thousands_sepEv
  _ZNKSt8numpunctIcE8groupingEv _ZNKSt8numpunctIcE8truenameEv _ZNKSt8numpunctIcE9falsenameEv
  _ZNKSt8numpunctIwE11do_groupingEv _ZNKSt8numpunctIwE11do_truenameEv
  _ZNKSt8numpunctIwE12do_falsenameEv _ZNKSt8numpunctIwE13decimal_pointEv
  _ZNKSt8numpunctIwE13thousands_sepEv _ZNKSt8numpunctIwE16do_decimal_pointEv
  _ZNKSt8numpunctIwE16do_thousands_sepEv _ZNKSt8numpunctIwE8groupingEv
  _ZNKSt8numpunctIwE8truenameEv _ZNKSt8numpunctIwE9falsenameEv _ZNKSt8valarrayImE4sizeEv
  _ZNKSt9bad_alloc4whatEv _ZNKSt9exception4whatEv _ZNKSt9strstream5rdbufEv
  _ZNKSt9strstream6pcountEv _ZNKSt9type_info10__do_catchEPKS_PPvj
  _ZNKSt9type_info14__is_pointer_pEv _ZNKSt9type_info15__is_function_pEv _ZNSaIcEC1ERKS_
  _ZNSaIcEC1Ev _ZNSaIcEC2ERKS_ _ZNSaIcEC2Ev _ZNSaIcED1Ev _ZNSaIcED2Ev _ZNSaIwEC1ERKS_
  _ZNSaIwEC1Ev _ZNSaIwEC2ERKS_ _ZNSaIwEC2Ev _ZNSaIwED1Ev _ZNSaIwED2Ev
  _ZNSbIwSt11char_traitsIwESaIwEE2atEm _ZNSbIwSt11char_traitsIwESaIwEE3endEv
  _ZNSbIwSt11char_traitsIwESaIwEE4backEv _ZNSbIwSt11char_traitsIwESaIwEE4dataEv
  _ZNSbIwSt11char_traitsIwESaIwEE4rendEv _ZNSbIwSt11char_traitsIwESaIwEE5beginEv
  _ZNSbIwSt11char_traitsIwESaIwEE5clearEv _ZNSbIwSt11char_traitsIwESaIwEE5eraseEmm
  _ZNSbIwSt11char_traitsIwESaIwEE5frontEv _ZNSbIwSt11char_traitsIwESaIwEE6rbeginEv
  _ZNSbIwSt11char_traitsIwESaIwEE6resizeEm _ZNSbIwSt11char_traitsIwESaIwEEC1EOS2_
  _ZNSbIwSt11char_traitsIwESaIwEEC1ERKS1_ _ZNSbIwSt11char_traitsIwESaIwEEC1ERKS2_
  _ZNSbIwSt11char_traitsIwESaIwEEC1Ev _ZNSbIwSt11char_traitsIwESaIwEEC2EOS2_
  _ZNSbIwSt11char_traitsIwESaIwEEC2ERKS1_ _ZNSbIwSt11char_traitsIwESaIwEEC2ERKS2_
  _ZNSbIwSt11char_traitsIwESaIwEEC2Ev _ZNSbIwSt11char_traitsIwESaIwEED1Ev
  _ZNSbIwSt11char_traitsIwESaIwEED2Ev _ZNSbIwSt11char_traitsIwESaIwEEaSEOS2_
  _ZNSbIwSt11char_traitsIwESaIwEEaSEPKw _ZNSbIwSt11char_traitsIwESaIwEEaSERKS2_
  _ZNSbIwSt11char_traitsIwESaIwEEaSEw _ZNSbIwSt11char_traitsIwESaIwEEixEm
  _ZNSbIwSt11char_traitsIwESaIwEEpLEPKw _ZNSbIwSt11char_traitsIwESaIwEEpLERKS2_
  _ZNSbIwSt11char_traitsIwESaIwEEpLEw _ZNSd4swapERSd _ZNSdC1EOSd _ZNSdC1Ev _ZNSdC2EOSd _ZNSdC2Ev
  _ZNSdD0Ev _ZNSdD1Ev _ZNSdD2Ev _ZNSdaSEOSd _ZNSi10_M_extractIPvEERSiRT_
  _ZNSi10_M_extractIbEERSiRT_ _ZNSi10_M_extractIdEERSiRT_ _ZNSi10_M_extractIeEERSiRT_
  _ZNSi10_M_extractIfEERSiRT_ _ZNSi10_M_extractIjEERSiRT_ _ZNSi10_M_extractIlEERSiRT_
  _ZNSi10_M_extractImEERSiRT_ _ZNSi10_M_extractItEERSiRT_ _ZNSi10_M_extractIxEERSiRT_
  _ZNSi10_M_extractIyEERSiRT_ _ZNSi3getEPcl _ZNSi3getEPclc _ZNSi3getERc _ZNSi3getEv _ZNSi4peekEv
  _ZNSi4readEPcl _ZNSi4swapERSi _ZNSi4syncEv _ZNSi5seekgESt4fposI11__mbstate_tE
  _ZNSi5seekgElSt12_Ios_Seekdir _ZNSi5tellgEv _ZNSi5ungetEv _ZNSi6ignoreEl _ZNSi6ignoreEli
  _ZNSi6ignoreEv _ZNSi6sentryC1ERSib _ZNSi6sentryC2ERSib _ZNSi7getlineEPcl _ZNSi7getlineEPclc
  _ZNSi7putbackEc _ZNSi8readsomeEPcl _ZNSiC1EOSi _ZNSiC1Ev _ZNSiC2EOSi _ZNSiC2Ev _ZNSiD0Ev
  _ZNSiD1Ev _ZNSiD2Ev _ZNSiaSEOSi _ZNSirsEPFRSiS_E _ZNSirsEPFRSt8ios_baseS0_E _ZNSirsERPv
  _ZNSirsERb _ZNSirsERd _ZNSirsERe _ZNSirsERf _ZNSirsERi _ZNSirsERj _ZNSirsERl _ZNSirsERm
  _ZNSirsERs _ZNSirsERt _ZNSirsERx _ZNSirsERy _ZNSo3putEc _ZNSo4swapERSo _ZNSo5flushEv
  _ZNSo5seekpESt4fposI11__mbstate_tE _ZNSo5seekpElSt12_Ios_Seekdir _ZNSo5tellpEv _ZNSo5writeEPKcl
  _ZNSo6sentryC1ERSo _ZNSo6sentryC2ERSo _ZNSo6sentryD1Ev _ZNSo6sentryD2Ev _ZNSo8_M_writeEPKcl
  _ZNSo9_M_insertIPKvEERSoT_ _ZNSo9_M_insertIbEERSoT_ _ZNSo9_M_insertIdEERSoT_
  _ZNSo9_M_insertIeEERSoT_ _ZNSo9_M_insertIlEERSoT_ _ZNSo9_M_insertImEERSoT_
  _ZNSo9_M_insertIxEERSoT_ _ZNSo9_M_insertIyEERSoT_ _ZNSoC1EOSo _ZNSoC1ERSd _ZNSoC1Ev _ZNSoC2EOSo
  _ZNSoC2ERSd _ZNSoC2Ev _ZNSoD0Ev _ZNSoD1Ev _ZNSoD2Ev _ZNSoaSEOSo _ZNSolsEDn _ZNSolsEPFRSoS_E
  _ZNSolsEPFRSt8ios_baseS0_E _ZNSolsEPKv _ZNSolsEb _ZNSolsEd _ZNSolsEe _ZNSolsEf _ZNSolsEi
  _ZNSolsEj _ZNSolsEl _ZNSolsEm _ZNSolsEs _ZNSolsEt _ZNSolsEx _ZNSolsEy _ZNSs10_S_compareEmm
  _ZNSs12_Alloc_hiderC1EPcRKSaIcE _ZNSs12_Alloc_hiderC2EPcRKSaIcE _ZNSs12_M_leak_hardEv
  _ZNSs12_S_constructEmcRKSaIcE _ZNSs12_S_empty_repEv _ZNSs13_S_copy_charsEPcPKcS1_
  _ZNSs13_S_copy_charsEPcS_S_ _ZNSs13shrink_to_fitEv _ZNSs14_M_replace_auxEmmmc
  _ZNSs15_M_replace_safeEmmPKcm _ZNSs18_S_construct_aux_2EmcRKSaIcE _ZNSs2atEm _ZNSs3endEv
  _ZNSs4_Rep10_M_destroyERKSaIcE _ZNSs4_Rep10_M_disposeERKSaIcE _ZNSs4_Rep10_M_refcopyEv
  _ZNSs4_Rep10_M_refdataEv _ZNSs4_Rep12_S_empty_repEv _ZNSs4_Rep13_M_set_leakedEv
  _ZNSs4_Rep15_M_set_sharableEv _ZNSs4_Rep26_M_set_length_and_sharableEm
  _ZNSs4_Rep7_M_grabERKSaIcES2_ _ZNSs4_Rep8_M_cloneERKSaIcEm _ZNSs4_Rep9_S_createEmmRKSaIcE
  _ZNSs4backEv _ZNSs4dataEv _ZNSs4rendEv _ZNSs4swapERSs _ZNSs5beginEv _ZNSs5clearEv
  _ZNSs5eraseEmm _ZNSs5frontEv _ZNSs6appendEPKc _ZNSs6appendEPKcm _ZNSs6appendERKSs
  _ZNSs6appendERKSsmm _ZNSs6appendESt16initializer_listIcE _ZNSs6appendEmc _ZNSs6assignEOSs
  _ZNSs6assignEPKc _ZNSs6assignEPKcm _ZNSs6assignERKSs _ZNSs6assignERKSsmm
  _ZNSs6assignESt16initializer_listIcE _ZNSs6assignEmc _ZNSs6insertEmPKc _ZNSs6insertEmPKcm
  _ZNSs6insertEmRKSs _ZNSs6insertEmRKSsmm _ZNSs6insertEmmc _ZNSs6rbeginEv _ZNSs6resizeEm
  _ZNSs6resizeEmc _ZNSs7_M_copyEPcPKcm _ZNSs7_M_dataEPc _ZNSs7_M_leakEv _ZNSs7_M_moveEPcPKcm
  _ZNSs7replaceEmmPKc _ZNSs7replaceEmmPKcm _ZNSs7replaceEmmRKSs _ZNSs7replaceEmmRKSsmm
  _ZNSs7replaceEmmmc _ZNSs7reserveEm _ZNSs7reserveEv _ZNSs8pop_backEv _ZNSs9_M_assignEPcmc
  _ZNSs9_M_mutateEmmm _ZNSs9push_backEc _ZNSsC1ENSs12__sv_wrapperERKSaIcE _ZNSsC1EOSs
  _ZNSsC1EOSsRKSaIcE _ZNSsC1EPKcRKSaIcE _ZNSsC1EPKcmRKSaIcE _ZNSsC1ERKSaIcE _ZNSsC1ERKSs
  _ZNSsC1ERKSsRKSaIcE _ZNSsC1ERKSsmRKSaIcE _ZNSsC1ERKSsmm _ZNSsC1ERKSsmmRKSaIcE
  _ZNSsC1ESt16initializer_listIcERKSaIcE _ZNSsC1EmcRKSaIcE _ZNSsC1Ev _ZNSsC1IPKcEET_S2_RKSaIcE
  _ZNSsC1IPcEET_S1_RKSaIcE _ZNSsC2ENSs12__sv_wrapperERKSaIcE _ZNSsC2EOSs _ZNSsC2EOSsRKSaIcE
  _ZNSsC2EPKcRKSaIcE _ZNSsC2EPKcmRKSaIcE _ZNSsC2ERKSaIcE _ZNSsC2ERKSs _ZNSsC2ERKSsRKSaIcE
  _ZNSsC2ERKSsmRKSaIcE _ZNSsC2ERKSsmm _ZNSsC2ERKSsmmRKSaIcE
  _ZNSsC2ESt16initializer_listIcERKSaIcE _ZNSsC2EmcRKSaIcE _ZNSsC2Ev _ZNSsC2IPKcEET_S2_RKSaIcE
  _ZNSsC2IPcEET_S1_RKSaIcE _ZNSsD1Ev _ZNSsD2Ev _ZNSsaSEOSs _ZNSsaSEPKc _ZNSsaSERKSs
  _ZNSsaSESt16initializer_listIcE _ZNSsaSEc _ZNSsixEm _ZNSspLEPKc _ZNSspLERKSs
  _ZNSspLESt16initializer_listIcE _ZNSspLEc _ZNSt10_Sp_lockerC1EPKv _ZNSt10_Sp_lockerC1EPKvS1_
  _ZNSt10_Sp_lockerC2EPKv _ZNSt10_Sp_lockerC2EPKvS1_ _ZNSt10_Sp_lockerD1Ev _ZNSt10_Sp_lockerD2Ev
  _ZNSt10bad_typeidD0Ev _ZNSt10bad_typeidD1Ev _ZNSt10bad_typeidD2Ev
  _ZNSt10filesystem12current_pathB5cxx11Ev _ZNSt10filesystem12current_pathEv
  _ZNSt10filesystem16filesystem_errorD0Ev _ZNSt10filesystem16filesystem_errorD1Ev
  _ZNSt10filesystem16filesystem_errorD2Ev _ZNSt10filesystem19temp_directory_pathEv
  _ZNSt10filesystem4path14_M_split_cmptsEv _ZNSt10filesystem4path5_ListC1ERKS1_
  _ZNSt10filesystem4path5_ListC1Ev _ZNSt10filesystem4pathaSERKS0_ _ZNSt10filesystem4pathdVERKS0_
  _ZNSt10filesystem4pathpLERKS0_ _ZNSt10filesystem5spaceERKNS_4pathE
  _ZNSt10filesystem6removeERKNS_4pathE _ZNSt10filesystem6renameERKNS_4pathES2_
  _ZNSt10filesystem6statusERKNS_4pathE _ZNSt10filesystem7__cxx114path5_ListC1Ev
  _ZNSt10filesystem7__cxx114pathaSERKS1_ _ZNSt10filesystem7__cxx114pathdVERKS1_
  _ZNSt10filesystem7__cxx114pathpLERKS1_ _ZNSt10filesystem8absoluteERKNS_4pathE
  _ZNSt10filesystem8is_emptyERKNS_4pathE _ZNSt10filesystem9canonicalERKNS_4pathE
  _ZNSt10filesystem9file_sizeERKNS_4pathE _ZNSt10istrstream3strEv _ZNSt10istrstreamC1EPKc
  _ZNSt10istrstreamC1EPKcl _ZNSt10istrstreamC1EPc _ZNSt10istrstreamC1EPcl _ZNSt10istrstreamC2EPKc
  _ZNSt10istrstreamC2EPKcl _ZNSt10istrstreamC2EPc _ZNSt10istrstreamC2EPcl _ZNSt10istrstreamD0Ev
  _ZNSt10istrstreamD1Ev _ZNSt10istrstreamD2Ev _ZNSt10moneypunctIcLb0EEC1Em
  _ZNSt10moneypunctIcLb0EEC2Em _ZNSt10moneypunctIcLb0EED0Ev _ZNSt10moneypunctIcLb0EED1Ev
  _ZNSt10moneypunctIcLb0EED2Ev _ZNSt10moneypunctIcLb1EEC1Em _ZNSt10moneypunctIcLb1EEC2Em
  _ZNSt10moneypunctIcLb1EED0Ev _ZNSt10moneypunctIcLb1EED1Ev _ZNSt10moneypunctIcLb1EED2Ev
  _ZNSt10moneypunctIwLb0EEC1Em _ZNSt10moneypunctIwLb0EEC2Em _ZNSt10moneypunctIwLb0EED0Ev
  _ZNSt10moneypunctIwLb0EED1Ev _ZNSt10moneypunctIwLb0EED2Ev _ZNSt10moneypunctIwLb1EEC1Em
  _ZNSt10moneypunctIwLb1EEC2Em _ZNSt10moneypunctIwLb1EED0Ev _ZNSt10moneypunctIwLb1EED1Ev
  _ZNSt10moneypunctIwLb1EED2Ev _ZNSt10ostrstream3strEv _ZNSt10ostrstream6freezeEb
  _ZNSt10ostrstreamC1EPciSt13_Ios_Openmode _ZNSt10ostrstreamC1Ev
  _ZNSt10ostrstreamC2EPciSt13_Ios_Openmode _ZNSt10ostrstreamC2Ev _ZNSt10ostrstreamD0Ev
  _ZNSt10ostrstreamD1Ev _ZNSt10ostrstreamD2Ev _ZNSt11__timepunctIcEC1Em _ZNSt11__timepunctIcEC2Em
  _ZNSt11__timepunctIcED0Ev _ZNSt11__timepunctIcED1Ev _ZNSt11__timepunctIcED2Ev
  _ZNSt11__timepunctIwEC1Em _ZNSt11__timepunctIwEC2Em _ZNSt11__timepunctIwED0Ev
  _ZNSt11__timepunctIwED1Ev _ZNSt11__timepunctIwED2Ev _ZNSt11char_traitsIcE2eqERKcS2_
  _ZNSt11char_traitsIwE2eqERKwS2_ _ZNSt11logic_errorC1EOS_ _ZNSt11logic_errorC1EPKc
  _ZNSt11logic_errorC1ERKS_ _ZNSt11logic_errorC1ERKSs _ZNSt11logic_errorC2EOS_
  _ZNSt11logic_errorC2EPKc _ZNSt11logic_errorC2ERKS_ _ZNSt11logic_errorC2ERKSs
  _ZNSt11logic_errorD0Ev _ZNSt11logic_errorD1Ev _ZNSt11logic_errorD2Ev _ZNSt11logic_erroraSEOS_
  _ZNSt11logic_erroraSERKS_ _ZNSt11range_errorC1EPKc _ZNSt11range_errorC1ERKSs
  _ZNSt11range_errorC2EPKc _ZNSt11range_errorC2ERKSs _ZNSt11range_errorD0Ev
  _ZNSt11range_errorD1Ev _ZNSt11range_errorD2Ev _ZNSt11regex_errorD0Ev _ZNSt11regex_errorD1Ev
  _ZNSt11regex_errorD2Ev _ZNSt12__basic_fileIcE2fdEv _ZNSt12__basic_fileIcE4fileEv
  _ZNSt12__basic_fileIcE4syncEv _ZNSt12__basic_fileIcE5closeEv _ZNSt12__basic_fileIcE6xsgetnEPcl
  _ZNSt12__basic_fileIcE6xsputnEPKcl _ZNSt12__basic_fileIcE8xsputn_2EPKclS2_l
  _ZNSt12__basic_fileIcE9showmanycEv _ZNSt12__basic_fileIcED1Ev _ZNSt12__basic_fileIcED2Ev
  _ZNSt12bad_weak_ptrD0Ev _ZNSt12bad_weak_ptrD1Ev _ZNSt12bad_weak_ptrD2Ev
  _ZNSt12ctype_bynameIcEC1EPKcm _ZNSt12ctype_bynameIcEC1ERKSsm _ZNSt12ctype_bynameIcEC2EPKcm
  _ZNSt12ctype_bynameIcEC2ERKSsm _ZNSt12ctype_bynameIcED0Ev _ZNSt12ctype_bynameIcED1Ev
  _ZNSt12ctype_bynameIcED2Ev _ZNSt12ctype_bynameIwEC1EPKcm _ZNSt12ctype_bynameIwEC1ERKSsm
  _ZNSt12ctype_bynameIwEC2EPKcm _ZNSt12ctype_bynameIwEC2ERKSsm _ZNSt12ctype_bynameIwED0Ev
  _ZNSt12ctype_bynameIwED1Ev _ZNSt12ctype_bynameIwED2Ev _ZNSt12domain_errorC1EPKc
  _ZNSt12domain_errorC1ERKSs _ZNSt12domain_errorC2EPKc _ZNSt12domain_errorC2ERKSs
  _ZNSt12domain_errorD0Ev _ZNSt12domain_errorD1Ev _ZNSt12domain_errorD2Ev _ZNSt12future_errorD0Ev
  _ZNSt12future_errorD1Ev _ZNSt12future_errorD2Ev _ZNSt12length_errorC1EPKc
  _ZNSt12length_errorC1ERKSs _ZNSt12length_errorC2EPKc _ZNSt12length_errorC2ERKSs
  _ZNSt12length_errorD0Ev _ZNSt12length_errorD1Ev _ZNSt12length_errorD2Ev
  _ZNSt12out_of_rangeC1EPKc _ZNSt12out_of_rangeC1ERKSs _ZNSt12out_of_rangeC2EPKc
  _ZNSt12out_of_rangeC2ERKSs _ZNSt12out_of_rangeD0Ev _ZNSt12out_of_rangeD1Ev
  _ZNSt12out_of_rangeD2Ev _ZNSt12strstreambuf3strEv _ZNSt12strstreambuf6freezeEb
  _ZNSt12strstreambuf6setbufEPcl _ZNSt12strstreambuf7_M_freeEPc _ZNSt12strstreambuf8_M_allocEm
  _ZNSt12strstreambuf8_M_setupEPcS0_l _ZNSt12strstreambuf8overflowEi
  _ZNSt12strstreambuf9pbackfailEi _ZNSt12strstreambuf9underflowEv
  _ZNSt12strstreambufC1EPFPvmEPFvS0_E _ZNSt12strstreambufC1EPKal _ZNSt12strstreambufC1EPKcl
  _ZNSt12strstreambufC1EPKhl _ZNSt12strstreambufC1EPalS0_ _ZNSt12strstreambufC1EPclS0_
  _ZNSt12strstreambufC1EPhlS0_ _ZNSt12strstreambufC1El _ZNSt12strstreambufC2EPFPvmEPFvS0_E
  _ZNSt12strstreambufC2EPKal _ZNSt12strstreambufC2EPKcl _ZNSt12strstreambufC2EPKhl
  _ZNSt12strstreambufC2EPalS0_ _ZNSt12strstreambufC2EPclS0_ _ZNSt12strstreambufC2EPhlS0_
  _ZNSt12strstreambufC2El _ZNSt12strstreambufD0Ev _ZNSt12strstreambufD1Ev _ZNSt12strstreambufD2Ev
  _ZNSt12system_errorD0Ev _ZNSt12system_errorD1Ev _ZNSt12system_errorD2Ev
  _ZNSt13__future_base11_State_baseD0Ev _ZNSt13__future_base11_State_baseD1Ev
  _ZNSt13__future_base11_State_baseD2Ev _ZNSt13__future_base12_Result_baseC1Ev
  _ZNSt13__future_base12_Result_baseC2Ev _ZNSt13__future_base12_Result_baseD0Ev
  _ZNSt13__future_base12_Result_baseD1Ev _ZNSt13__future_base12_Result_baseD2Ev
  _ZNSt13bad_exceptionD0Ev _ZNSt13bad_exceptionD1Ev _ZNSt13bad_exceptionD2Ev
  _ZNSt13random_device16_M_getval_pretr1Ev _ZNSt13random_device7_M_finiEv
  _ZNSt13random_device7_M_initERKSs _ZNSt13random_device9_M_getvalEv _ZNSt13runtime_errorC1EOS_
  _ZNSt13runtime_errorC1EPKc _ZNSt13runtime_errorC1ERKS_ _ZNSt13runtime_errorC1ERKSs
  _ZNSt13runtime_errorC2EOS_ _ZNSt13runtime_errorC2EPKc _ZNSt13runtime_errorC2ERKS_
  _ZNSt13runtime_errorC2ERKSs _ZNSt13runtime_errorD0Ev _ZNSt13runtime_errorD1Ev
  _ZNSt13runtime_errorD2Ev _ZNSt13runtime_erroraSEOS_ _ZNSt13runtime_erroraSERKS_
  _ZNSt14collate_bynameIcEC1EPKcm _ZNSt14collate_bynameIcEC1ERKSsm
  _ZNSt14collate_bynameIcEC2EPKcm _ZNSt14collate_bynameIcEC2ERKSsm _ZNSt14collate_bynameIcED0Ev
  _ZNSt14collate_bynameIcED1Ev _ZNSt14collate_bynameIcED2Ev _ZNSt14collate_bynameIwEC1EPKcm
  _ZNSt14collate_bynameIwEC1ERKSsm _ZNSt14collate_bynameIwEC2EPKcm
  _ZNSt14collate_bynameIwEC2ERKSsm _ZNSt14collate_bynameIwED0Ev _ZNSt14collate_bynameIwED1Ev
  _ZNSt14collate_bynameIwED2Ev _ZNSt14error_categoryC1Ev _ZNSt14error_categoryC2Ev
  _ZNSt14error_categoryD0Ev _ZNSt14error_categoryD1Ev _ZNSt14error_categoryD2Ev
  _ZNSt14overflow_errorC1EPKc _ZNSt14overflow_errorC1ERKSs _ZNSt14overflow_errorC2EPKc
  _ZNSt14overflow_errorC2ERKSs _ZNSt14overflow_errorD0Ev _ZNSt14overflow_errorD1Ev
  _ZNSt14overflow_errorD2Ev _ZNSt15_List_node_base10_M_reverseEv _ZNSt15_List_node_base4hookEPS_
  _ZNSt15_List_node_base4swapERS_S0_ _ZNSt15_List_node_base6unhookEv
  _ZNSt15_List_node_base7_M_hookEPS_ _ZNSt15_List_node_base7reverseEv
  _ZNSt15_List_node_base8transferEPS_S0_ _ZNSt15_List_node_base9_M_unhookEv
  _ZNSt15messages_bynameIcEC1EPKcm _ZNSt15messages_bynameIcEC1ERKSsm
  _ZNSt15messages_bynameIcEC2EPKcm _ZNSt15messages_bynameIcEC2ERKSsm
  _ZNSt15messages_bynameIcED0Ev _ZNSt15messages_bynameIcED1Ev _ZNSt15messages_bynameIcED2Ev
  _ZNSt15messages_bynameIwEC1EPKcm _ZNSt15messages_bynameIwEC1ERKSsm
  _ZNSt15messages_bynameIwEC2EPKcm _ZNSt15messages_bynameIwEC2ERKSsm
  _ZNSt15messages_bynameIwED0Ev _ZNSt15messages_bynameIwED1Ev _ZNSt15messages_bynameIwED2Ev
  _ZNSt15numpunct_bynameIcEC1EPKcm _ZNSt15numpunct_bynameIcEC1ERKSsm
  _ZNSt15numpunct_bynameIcEC2EPKcm _ZNSt15numpunct_bynameIcEC2ERKSsm
  _ZNSt15numpunct_bynameIcED0Ev _ZNSt15numpunct_bynameIcED1Ev _ZNSt15numpunct_bynameIcED2Ev
  _ZNSt15numpunct_bynameIwEC1EPKcm _ZNSt15numpunct_bynameIwEC1ERKSsm
  _ZNSt15numpunct_bynameIwEC2EPKcm _ZNSt15numpunct_bynameIwEC2ERKSsm
  _ZNSt15numpunct_bynameIwED0Ev _ZNSt15numpunct_bynameIwED1Ev _ZNSt15numpunct_bynameIwED2Ev
  _ZNSt15underflow_errorC1EPKc _ZNSt15underflow_errorC1ERKSs _ZNSt15underflow_errorC2EPKc
  _ZNSt15underflow_errorC2ERKSs _ZNSt15underflow_errorD0Ev _ZNSt15underflow_errorD1Ev
  _ZNSt15underflow_errorD2Ev _ZNSt16__numpunct_cacheIcEC1Em _ZNSt16__numpunct_cacheIcEC2Em
  _ZNSt16__numpunct_cacheIcED0Ev _ZNSt16__numpunct_cacheIcED1Ev _ZNSt16__numpunct_cacheIcED2Ev
  _ZNSt16__numpunct_cacheIwEC1Em _ZNSt16__numpunct_cacheIwEC2Em _ZNSt16__numpunct_cacheIwED0Ev
  _ZNSt16__numpunct_cacheIwED1Ev _ZNSt16__numpunct_cacheIwED2Ev _ZNSt16bad_array_lengthD0Ev
  _ZNSt16bad_array_lengthD1Ev _ZNSt16bad_array_lengthD2Ev _ZNSt16invalid_argumentC1EPKc
  _ZNSt16invalid_argumentC1ERKSs _ZNSt16invalid_argumentC2EPKc _ZNSt16invalid_argumentC2ERKSs
  _ZNSt16invalid_argumentD0Ev _ZNSt16invalid_argumentD1Ev _ZNSt16invalid_argumentD2Ev
  _ZNSt16nested_exceptionD0Ev _ZNSt16nested_exceptionD1Ev _ZNSt16nested_exceptionD2Ev
  _ZNSt17__timepunct_cacheIcEC1Em _ZNSt17__timepunct_cacheIcEC2Em _ZNSt17__timepunct_cacheIcED0Ev
  _ZNSt17__timepunct_cacheIcED1Ev _ZNSt17__timepunct_cacheIcED2Ev _ZNSt17__timepunct_cacheIwEC1Em
  _ZNSt17__timepunct_cacheIwEC2Em _ZNSt17__timepunct_cacheIwED0Ev _ZNSt17__timepunct_cacheIwED1Ev
  _ZNSt17__timepunct_cacheIwED2Ev _ZNSt17bad_function_callD0Ev _ZNSt17bad_function_callD1Ev
  _ZNSt17bad_function_callD2Ev _ZNSt17moneypunct_bynameIcLb0EEC1EPKcm
  _ZNSt17moneypunct_bynameIcLb0EEC1ERKSsm _ZNSt17moneypunct_bynameIcLb0EEC2EPKcm
  _ZNSt17moneypunct_bynameIcLb0EEC2ERKSsm _ZNSt17moneypunct_bynameIcLb0EED0Ev
  _ZNSt17moneypunct_bynameIcLb0EED1Ev _ZNSt17moneypunct_bynameIcLb0EED2Ev
  _ZNSt17moneypunct_bynameIcLb1EEC1EPKcm _ZNSt17moneypunct_bynameIcLb1EEC1ERKSsm
  _ZNSt17moneypunct_bynameIcLb1EEC2EPKcm _ZNSt17moneypunct_bynameIcLb1EEC2ERKSsm
  _ZNSt17moneypunct_bynameIcLb1EED0Ev _ZNSt17moneypunct_bynameIcLb1EED1Ev
  _ZNSt17moneypunct_bynameIcLb1EED2Ev _ZNSt17moneypunct_bynameIwLb0EEC1EPKcm
  _ZNSt17moneypunct_bynameIwLb0EEC1ERKSsm _ZNSt17moneypunct_bynameIwLb0EEC2EPKcm
  _ZNSt17moneypunct_bynameIwLb0EEC2ERKSsm _ZNSt17moneypunct_bynameIwLb0EED0Ev
  _ZNSt17moneypunct_bynameIwLb0EED1Ev _ZNSt17moneypunct_bynameIwLb0EED2Ev
  _ZNSt17moneypunct_bynameIwLb1EEC1EPKcm _ZNSt17moneypunct_bynameIwLb1EEC1ERKSsm
  _ZNSt17moneypunct_bynameIwLb1EEC2EPKcm _ZNSt17moneypunct_bynameIwLb1EEC2ERKSsm
  _ZNSt17moneypunct_bynameIwLb1EED0Ev _ZNSt17moneypunct_bynameIwLb1EED1Ev
  _ZNSt17moneypunct_bynameIwLb1EED2Ev _ZNSt18__moneypunct_cacheIcLb0EEC1Em
  _ZNSt18__moneypunct_cacheIcLb0EEC2Em _ZNSt18__moneypunct_cacheIcLb0EED0Ev
  _ZNSt18__moneypunct_cacheIcLb0EED1Ev _ZNSt18__moneypunct_cacheIcLb0EED2Ev
  _ZNSt18__moneypunct_cacheIcLb1EEC1Em _ZNSt18__moneypunct_cacheIcLb1EEC2Em
  _ZNSt18__moneypunct_cacheIcLb1EED0Ev _ZNSt18__moneypunct_cacheIcLb1EED1Ev
  _ZNSt18__moneypunct_cacheIcLb1EED2Ev _ZNSt18__moneypunct_cacheIwLb0EEC1Em
  _ZNSt18__moneypunct_cacheIwLb0EEC2Em _ZNSt18__moneypunct_cacheIwLb0EED0Ev
  _ZNSt18__moneypunct_cacheIwLb0EED1Ev _ZNSt18__moneypunct_cacheIwLb0EED2Ev
  _ZNSt18__moneypunct_cacheIwLb1EEC1Em _ZNSt18__moneypunct_cacheIwLb1EEC2Em
  _ZNSt18__moneypunct_cacheIwLb1EED0Ev _ZNSt18__moneypunct_cacheIwLb1EED1Ev
  _ZNSt18__moneypunct_cacheIwLb1EED2Ev _ZNSt18condition_variable10notify_allEv
  _ZNSt18condition_variable10notify_oneEv _ZNSt18condition_variableC1Ev
  _ZNSt18condition_variableC2Ev _ZNSt18condition_variableD1Ev _ZNSt18condition_variableD2Ev
  _ZNSt19__codecvt_utf8_baseIDiED0Ev _ZNSt19__codecvt_utf8_baseIDiED1Ev
  _ZNSt19__codecvt_utf8_baseIDiED2Ev _ZNSt19__codecvt_utf8_baseIDsED0Ev
  _ZNSt19__codecvt_utf8_baseIDsED1Ev _ZNSt19__codecvt_utf8_baseIDsED2Ev
  _ZNSt19__codecvt_utf8_baseIwED0Ev _ZNSt19__codecvt_utf8_baseIwED1Ev
  _ZNSt19__codecvt_utf8_baseIwED2Ev _ZNSt20__codecvt_utf16_baseIDiED0Ev
  _ZNSt20__codecvt_utf16_baseIDiED1Ev _ZNSt20__codecvt_utf16_baseIDiED2Ev
  _ZNSt20__codecvt_utf16_baseIDsED0Ev _ZNSt20__codecvt_utf16_baseIDsED1Ev
  _ZNSt20__codecvt_utf16_baseIDsED2Ev _ZNSt20__codecvt_utf16_baseIwED0Ev
  _ZNSt20__codecvt_utf16_baseIwED1Ev _ZNSt20__codecvt_utf16_baseIwED2Ev
  _ZNSt20bad_array_new_lengthD0Ev _ZNSt20bad_array_new_lengthD1Ev _ZNSt20bad_array_new_lengthD2Ev
  _ZNSt22condition_variable_anyC1Ev _ZNSt22condition_variable_anyC2Ev
  _ZNSt22condition_variable_anyD1Ev _ZNSt22condition_variable_anyD2Ev
  _ZNSt25__codecvt_utf8_utf16_baseIDiED0Ev _ZNSt25__codecvt_utf8_utf16_baseIDiED1Ev
  _ZNSt25__codecvt_utf8_utf16_baseIDiED2Ev _ZNSt25__codecvt_utf8_utf16_baseIDsED0Ev
  _ZNSt25__codecvt_utf8_utf16_baseIDsED1Ev _ZNSt25__codecvt_utf8_utf16_baseIDsED2Ev
  _ZNSt25__codecvt_utf8_utf16_baseIwED0Ev _ZNSt25__codecvt_utf8_utf16_baseIwED1Ev
  _ZNSt25__codecvt_utf8_utf16_baseIwED2Ev _ZNSt3_V214error_categoryD0Ev
  _ZNSt3_V214error_categoryD1Ev _ZNSt3_V214error_categoryD2Ev _ZNSt3_V215system_categoryEv
  _ZNSt3_V216generic_categoryEv _ZNSt3pmr15memory_resourceD0Ev _ZNSt3pmr15memory_resourceD1Ev
  _ZNSt3pmr15memory_resourceD2Ev _ZNSt3pmr19new_delete_resourceEv
  _ZNSt3pmr20get_default_resourceEv _ZNSt3pmr20null_memory_resourceEv
  _ZNSt3pmr25monotonic_buffer_resourceD0Ev _ZNSt3pmr25monotonic_buffer_resourceD1Ev
  _ZNSt3pmr25monotonic_buffer_resourceD2Ev _ZNSt5ctypeIcE13classic_tableEv
  _ZNSt5ctypeIcEC1EP15__locale_structPKtbm _ZNSt5ctypeIcEC1EPKtbm
  _ZNSt5ctypeIcEC2EP15__locale_structPKtbm _ZNSt5ctypeIcEC2EPKtbm _ZNSt5ctypeIcED0Ev
  _ZNSt5ctypeIcED1Ev _ZNSt5ctypeIcED2Ev _ZNSt5ctypeIwE19_M_initialize_ctypeEv
  _ZNSt5ctypeIwEC1EP15__locale_structm _ZNSt5ctypeIwEC1Em _ZNSt5ctypeIwEC2EP15__locale_structm
  _ZNSt5ctypeIwEC2Em _ZNSt5ctypeIwED0Ev _ZNSt5ctypeIwED1Ev _ZNSt5ctypeIwED2Ev
  _ZNSt6__norm15_List_node_base4hookEPS0_ _ZNSt6__norm15_List_node_base6unhookEv
  _ZNSt6__norm15_List_node_base7reverseEv _ZNSt6chrono12system_clock3nowEv
  _ZNSt6chrono3_V212steady_clock3nowEv _ZNSt6chrono3_V212system_clock3nowEv
  _ZNSt6locale11_M_coalesceERKS_S1_i _ZNSt6locale21_S_normalize_categoryEi
  _ZNSt6locale5_ImplC1EPKcm _ZNSt6locale5_ImplC1ERKS0_m _ZNSt6locale5_ImplC1Em
  _ZNSt6locale5_ImplC2EPKcm _ZNSt6locale5_ImplC2ERKS0_m _ZNSt6locale5_ImplC2Em
  _ZNSt6locale5_ImplD1Ev _ZNSt6locale5_ImplD2Ev _ZNSt6locale5facet13_S_get_c_nameEv
  _ZNSt6locale5facet15_S_get_c_localeEv _ZNSt6locale5facetD0Ev _ZNSt6locale5facetD1Ev
  _ZNSt6locale5facetD2Ev _ZNSt6locale6globalERKS_ _ZNSt6locale7classicEv _ZNSt6localeC1EPKc
  _ZNSt6localeC1EPNS_5_ImplE _ZNSt6localeC1ERKS_ _ZNSt6localeC1ERKS_PKci _ZNSt6localeC1ERKS_S1_i
  _ZNSt6localeC1Ev _ZNSt6localeC2EPKc _ZNSt6localeC2EPNS_5_ImplE _ZNSt6localeC2ERKS_
  _ZNSt6localeC2ERKS_PKci _ZNSt6localeC2ERKS_S1_i _ZNSt6localeC2Ev _ZNSt6localeD1Ev
  _ZNSt6localeD2Ev _ZNSt6localeaSERKS_ _ZNSt6thread20hardware_concurrencyEv _ZNSt6thread4joinEv
  _ZNSt6thread6_StateD0Ev _ZNSt6thread6_StateD1Ev _ZNSt6thread6_StateD2Ev _ZNSt6thread6detachEv
  _ZNSt7__cxx1110moneypunctIcLb0EEC1Em _ZNSt7__cxx1110moneypunctIcLb0EEC2Em
  _ZNSt7__cxx1110moneypunctIcLb0EED0Ev _ZNSt7__cxx1110moneypunctIcLb0EED1Ev
  _ZNSt7__cxx1110moneypunctIcLb0EED2Ev _ZNSt7__cxx1110moneypunctIcLb1EEC1Em
  _ZNSt7__cxx1110moneypunctIcLb1EEC2Em _ZNSt7__cxx1110moneypunctIcLb1EED0Ev
  _ZNSt7__cxx1110moneypunctIcLb1EED1Ev _ZNSt7__cxx1110moneypunctIcLb1EED2Ev
  _ZNSt7__cxx1110moneypunctIwLb0EEC1Em _ZNSt7__cxx1110moneypunctIwLb0EEC2Em
  _ZNSt7__cxx1110moneypunctIwLb0EED0Ev _ZNSt7__cxx1110moneypunctIwLb0EED1Ev
  _ZNSt7__cxx1110moneypunctIwLb0EED2Ev _ZNSt7__cxx1110moneypunctIwLb1EEC1Em
  _ZNSt7__cxx1110moneypunctIwLb1EEC2Em _ZNSt7__cxx1110moneypunctIwLb1EED0Ev
  _ZNSt7__cxx1110moneypunctIwLb1EED1Ev _ZNSt7__cxx1110moneypunctIwLb1EED2Ev
  _ZNSt7__cxx1114collate_bynameIcEC1EPKcm _ZNSt7__cxx1114collate_bynameIcEC2EPKcm
  _ZNSt7__cxx1114collate_bynameIcED0Ev _ZNSt7__cxx1114collate_bynameIcED1Ev
  _ZNSt7__cxx1114collate_bynameIcED2Ev _ZNSt7__cxx1114collate_bynameIwEC1EPKcm
  _ZNSt7__cxx1114collate_bynameIwEC2EPKcm _ZNSt7__cxx1114collate_bynameIwED0Ev
  _ZNSt7__cxx1114collate_bynameIwED1Ev _ZNSt7__cxx1114collate_bynameIwED2Ev
  _ZNSt7__cxx1115messages_bynameIcEC1EPKcm _ZNSt7__cxx1115messages_bynameIcEC2EPKcm
  _ZNSt7__cxx1115messages_bynameIcED0Ev _ZNSt7__cxx1115messages_bynameIcED1Ev
  _ZNSt7__cxx1115messages_bynameIcED2Ev _ZNSt7__cxx1115messages_bynameIwEC1EPKcm
  _ZNSt7__cxx1115messages_bynameIwEC2EPKcm _ZNSt7__cxx1115messages_bynameIwED0Ev
  _ZNSt7__cxx1115messages_bynameIwED1Ev _ZNSt7__cxx1115messages_bynameIwED2Ev
  _ZNSt7__cxx1115numpunct_bynameIcEC1EPKcm _ZNSt7__cxx1115numpunct_bynameIcEC2EPKcm
  _ZNSt7__cxx1115numpunct_bynameIcED0Ev _ZNSt7__cxx1115numpunct_bynameIcED1Ev
  _ZNSt7__cxx1115numpunct_bynameIcED2Ev _ZNSt7__cxx1115numpunct_bynameIwEC1EPKcm
  _ZNSt7__cxx1115numpunct_bynameIwEC2EPKcm _ZNSt7__cxx1115numpunct_bynameIwED0Ev
  _ZNSt7__cxx1115numpunct_bynameIwED1Ev _ZNSt7__cxx1115numpunct_bynameIwED2Ev
  _ZNSt7__cxx117collateIcEC1Em _ZNSt7__cxx117collateIcEC2Em _ZNSt7__cxx117collateIcED0Ev
  _ZNSt7__cxx117collateIcED1Ev _ZNSt7__cxx117collateIcED2Ev _ZNSt7__cxx117collateIwEC1Em
  _ZNSt7__cxx117collateIwEC2Em _ZNSt7__cxx117collateIwED0Ev _ZNSt7__cxx117collateIwED1Ev
  _ZNSt7__cxx117collateIwED2Ev _ZNSt7__cxx118messagesIcEC1Em _ZNSt7__cxx118messagesIcEC2Em
  _ZNSt7__cxx118messagesIcED0Ev _ZNSt7__cxx118messagesIcED1Ev _ZNSt7__cxx118messagesIcED2Ev
  _ZNSt7__cxx118messagesIwEC1Em _ZNSt7__cxx118messagesIwEC2Em _ZNSt7__cxx118messagesIwED0Ev
  _ZNSt7__cxx118messagesIwED1Ev _ZNSt7__cxx118messagesIwED2Ev _ZNSt7__cxx118numpunctIcEC1Em
  _ZNSt7__cxx118numpunctIcEC2Em _ZNSt7__cxx118numpunctIcED0Ev _ZNSt7__cxx118numpunctIcED1Ev
  _ZNSt7__cxx118numpunctIcED2Ev _ZNSt7__cxx118numpunctIwEC1Em _ZNSt7__cxx118numpunctIwEC2Em
  _ZNSt7__cxx118numpunctIwED0Ev _ZNSt7__cxx118numpunctIwED1Ev _ZNSt7__cxx118numpunctIwED2Ev
  _ZNSt7codecvtIDiDu11__mbstate_tED0Ev _ZNSt7codecvtIDiDu11__mbstate_tED1Ev
  _ZNSt7codecvtIDiDu11__mbstate_tED2Ev _ZNSt7codecvtIDic11__mbstate_tED0Ev
  _ZNSt7codecvtIDic11__mbstate_tED1Ev _ZNSt7codecvtIDic11__mbstate_tED2Ev
  _ZNSt7codecvtIDsDu11__mbstate_tED0Ev _ZNSt7codecvtIDsDu11__mbstate_tED1Ev
  _ZNSt7codecvtIDsDu11__mbstate_tED2Ev _ZNSt7codecvtIDsc11__mbstate_tED0Ev
  _ZNSt7codecvtIDsc11__mbstate_tED1Ev _ZNSt7codecvtIDsc11__mbstate_tED2Ev
  _ZNSt7codecvtIcc11__mbstate_tEC1Em _ZNSt7codecvtIcc11__mbstate_tEC2Em
  _ZNSt7codecvtIcc11__mbstate_tED0Ev _ZNSt7codecvtIcc11__mbstate_tED1Ev
  _ZNSt7codecvtIcc11__mbstate_tED2Ev _ZNSt7codecvtIwc11__mbstate_tEC1Em
  _ZNSt7codecvtIwc11__mbstate_tEC2Em _ZNSt7codecvtIwc11__mbstate_tED0Ev
  _ZNSt7codecvtIwc11__mbstate_tED1Ev _ZNSt7codecvtIwc11__mbstate_tED2Ev
  _ZNSt7collateIcEC1EP15__locale_structm _ZNSt7collateIcEC1Em
  _ZNSt7collateIcEC2EP15__locale_structm _ZNSt7collateIcEC2Em _ZNSt7collateIcED0Ev
  _ZNSt7collateIcED1Ev _ZNSt7collateIcED2Ev _ZNSt7collateIwEC1EP15__locale_structm
  _ZNSt7collateIwEC1Em _ZNSt7collateIwEC2EP15__locale_structm _ZNSt7collateIwEC2Em
  _ZNSt7collateIwED0Ev _ZNSt7collateIwED1Ev _ZNSt7collateIwED2Ev _ZNSt8bad_castD0Ev
  _ZNSt8bad_castD1Ev _ZNSt8bad_castD2Ev _ZNSt8ios_base13_M_grow_wordsEib
  _ZNSt8ios_base15sync_with_stdioEb _ZNSt8ios_base20_M_dispose_callbacksEv
  _ZNSt8ios_base4InitC1Ev _ZNSt8ios_base4InitC2Ev _ZNSt8ios_base4InitD1Ev _ZNSt8ios_base4InitD2Ev
  _ZNSt8ios_base5imbueERKSt6locale _ZNSt8ios_base6xallocEv _ZNSt8ios_base7_M_initEv
  _ZNSt8ios_base7_M_moveERS_ _ZNSt8ios_base7_M_swapERS_ _ZNSt8ios_base7failureB5cxx11D0Ev
  _ZNSt8ios_base7failureB5cxx11D1Ev _ZNSt8ios_base7failureB5cxx11D2Ev
  _ZNSt8ios_base7failureC1ERKSs _ZNSt8ios_base7failureC2ERKSs _ZNSt8ios_base7failureD0Ev
  _ZNSt8ios_base7failureD1Ev _ZNSt8ios_base7failureD2Ev _ZNSt8ios_baseC1Ev _ZNSt8ios_baseC2Ev
  _ZNSt8ios_baseD0Ev _ZNSt8ios_baseD1Ev _ZNSt8ios_baseD2Ev _ZNSt8messagesIcEC1Em
  _ZNSt8messagesIcEC2Em _ZNSt8messagesIcED0Ev _ZNSt8messagesIcED1Ev _ZNSt8messagesIcED2Ev
  _ZNSt8messagesIwEC1Em _ZNSt8messagesIwEC2Em _ZNSt8messagesIwED0Ev _ZNSt8messagesIwED1Ev
  _ZNSt8messagesIwED2Ev _ZNSt8numpunctIcEC1EP15__locale_structm _ZNSt8numpunctIcEC1Em
  _ZNSt8numpunctIcEC2EP15__locale_structm _ZNSt8numpunctIcEC2Em _ZNSt8numpunctIcED0Ev
  _ZNSt8numpunctIcED1Ev _ZNSt8numpunctIcED2Ev _ZNSt8numpunctIwEC1EP15__locale_structm
  _ZNSt8numpunctIwEC1Em _ZNSt8numpunctIwEC2EP15__locale_structm _ZNSt8numpunctIwEC2Em
  _ZNSt8numpunctIwED0Ev _ZNSt8numpunctIwED1Ev _ZNSt8numpunctIwED2Ev _ZNSt8valarrayImEC1ERKS0_
  _ZNSt8valarrayImEC1Em _ZNSt8valarrayImEC2ERKS0_ _ZNSt8valarrayImEC2Em _ZNSt8valarrayImED1Ev
  _ZNSt8valarrayImED2Ev _ZNSt8valarrayImEixEm _ZNSt9bad_allocD0Ev _ZNSt9bad_allocD1Ev
  _ZNSt9bad_allocD2Ev _ZNSt9basic_iosIcSt11char_traitsIcEEC1Ev
  _ZNSt9basic_iosIcSt11char_traitsIcEEC2Ev _ZNSt9basic_iosIcSt11char_traitsIcEED0Ev
  _ZNSt9basic_iosIcSt11char_traitsIcEED1Ev _ZNSt9basic_iosIcSt11char_traitsIcEED2Ev
  _ZNSt9basic_iosIwSt11char_traitsIwEEC1Ev _ZNSt9basic_iosIwSt11char_traitsIwEEC2Ev
  _ZNSt9basic_iosIwSt11char_traitsIwEED0Ev _ZNSt9basic_iosIwSt11char_traitsIwEED1Ev
  _ZNSt9basic_iosIwSt11char_traitsIwEED2Ev _ZNSt9exceptionD0Ev _ZNSt9exceptionD1Ev
  _ZNSt9exceptionD2Ev _ZNSt9strstream3strEv _ZNSt9strstream6freezeEb
  _ZNSt9strstreamC1EPciSt13_Ios_Openmode _ZNSt9strstreamC1Ev
  _ZNSt9strstreamC2EPciSt13_Ios_Openmode _ZNSt9strstreamC2Ev _ZNSt9strstreamD0Ev
  _ZNSt9strstreamD1Ev _ZNSt9strstreamD2Ev _ZNSt9type_infoD0Ev _ZNSt9type_infoD1Ev
  _ZNSt9type_infoD2Ev _ZSt10from_charsPKcS0_RdSt12chars_format
  _ZSt10from_charsPKcS0_ReSt12chars_format _ZSt10from_charsPKcS0_RfSt12chars_format
  _ZSt10unexpectedv _ZSt11_Hash_bytesPKvmm _ZSt13get_terminatev _ZSt13set_terminatePFvvE
  _ZSt14get_unexpectedv _ZSt14set_unexpectedPFvvE _ZSt15_Fnv_hash_bytesPKvmm
  _ZSt15future_categoryv _ZSt15get_new_handlerv _ZSt15set_new_handlerPFvvE _ZSt15system_categoryv
  _ZSt16__throw_bad_castv _ZSt16generic_categoryv _ZSt17__istream_extractRSiPcl
  _ZSt17__throw_bad_allocv _ZSt17__verify_groupingPKcmRKSs _ZSt17current_exceptionv
  _ZSt17iostream_categoryv _ZSt18__throw_bad_typeidv _ZSt18uncaught_exceptionv
  _ZSt19__throw_ios_failurePKc _ZSt19__throw_ios_failurePKci _ZSt19__throw_logic_errorPKc
  _ZSt19__throw_range_errorPKc _ZSt19uncaught_exceptionsv _ZSt20__throw_domain_errorPKc
  _ZSt20__throw_future_errori _ZSt20__throw_length_errorPKc _ZSt20__throw_out_of_rangePKc
  _ZSt20__throw_system_errori _ZSt21__glibcxx_assert_failPKciS0_S0_ _ZSt21__throw_bad_exceptionv
  _ZSt21__throw_runtime_errorPKc _ZSt22__throw_overflow_errorPKc _ZSt23__throw_underflow_errorPKc
  _ZSt24__throw_invalid_argumentPKc _ZSt24__throw_out_of_range_fmtPKcz
  _ZSt25__throw_bad_function_callv _ZSt28__throw_bad_array_new_lengthv _ZSt8to_charsPcS_d
  _ZSt8to_charsPcS_dSt12chars_format _ZSt8to_charsPcS_dSt12chars_formati _ZSt8to_charsPcS_e
  _ZSt8to_charsPcS_eSt12chars_format _ZSt8to_charsPcS_eSt12chars_formati _ZSt8to_charsPcS_f
  _ZSt8to_charsPcS_fSt12chars_format _ZSt8to_charsPcS_fSt12chars_formati
  _ZSt9has_facetISt5ctypeIcEEbRKSt6locale _ZSt9has_facetISt5ctypeIwEEbRKSt6locale _ZSt9terminatev
  _ZThn16_NSdD0Ev _ZThn16_NSdD1Ev _ZThn16_NSt9strstreamD0Ev _ZThn16_NSt9strstreamD1Ev
  _ZTv0_n24_NSdD0Ev _ZTv0_n24_NSdD1Ev _ZTv0_n24_NSiD0Ev _ZTv0_n24_NSiD1Ev _ZTv0_n24_NSoD0Ev
  _ZTv0_n24_NSoD1Ev _ZTv0_n24_NSt10istrstreamD0Ev _ZTv0_n24_NSt10istrstreamD1Ev
  _ZTv0_n24_NSt10ostrstreamD0Ev _ZTv0_n24_NSt10ostrstreamD1Ev _ZTv0_n24_NSt9strstreamD0Ev
  _ZTv0_n24_NSt9strstreamD1Ev _ZdaPv _ZdaPvRKSt9nothrow_t _ZdaPvSt11align_val_t
  _ZdaPvSt11align_val_tRKSt9nothrow_t _ZdaPvm _ZdaPvmSt11align_val_t _ZdlPv _ZdlPvRKSt9nothrow_t
  _ZdlPvSt11align_val_t _ZdlPvSt11align_val_tRKSt9nothrow_t _ZdlPvm _ZdlPvmSt11align_val_t _Znam
  _ZnamRKSt9nothrow_t _ZnamSt11align_val_t _ZnamSt11align_val_tRKSt9nothrow_t _Znwm
  _ZnwmRKSt9nothrow_t _ZnwmSt11align_val_t _ZnwmSt11align_val_tRKSt9nothrow_t
  __atomic_flag_for_address __atomic_flag_wait_explicit __cxa_allocate_dependent_exception
  __cxa_allocate_exception __cxa_bad_cast __cxa_bad_typeid __cxa_begin_catch
  __cxa_call_unexpected __cxa_current_exception_type __cxa_deleted_virtual __cxa_demangle
  __cxa_end_catch __cxa_free_dependent_exception __cxa_free_exception __cxa_get_exception_ptr
  __cxa_get_globals __cxa_get_globals_fast __cxa_guard_abort __cxa_guard_acquire
  __cxa_guard_release __cxa_init_primary_exception __cxa_pure_virtual __cxa_rethrow
  __cxa_thread_atexit __cxa_throw __cxa_throw_bad_array_length __cxa_throw_bad_array_new_length
  __cxa_tm_cleanup __cxa_vec_cctor __cxa_vec_cleanup __cxa_vec_ctor __cxa_vec_delete
  __cxa_vec_delete2 __cxa_vec_delete3 __cxa_vec_dtor __cxa_vec_new __cxa_vec_new2 __cxa_vec_new3
  __dynamic_cast __gxx_personality_v0 __once_proxy atomic_flag_clear_explicit
  atomic_flag_test_and_set_explicit"

/-- The marks of versions of the C++ library. -/
def cxxMarks : List String := split "
  CXXABI_1.3 CXXABI_1.3.1 CXXABI_1.3.10 CXXABI_1.3.11 CXXABI_1.3.12 CXXABI_1.3.13 CXXABI_1.3.2
  CXXABI_1.3.3 CXXABI_1.3.4 CXXABI_1.3.5 CXXABI_1.3.6 CXXABI_1.3.7 CXXABI_1.3.8 CXXABI_1.3.9
  CXXABI_FLOAT128 CXXABI_TM_1 GLIBCXX_3.4 GLIBCXX_3.4.1 GLIBCXX_3.4.10 GLIBCXX_3.4.11
  GLIBCXX_3.4.12 GLIBCXX_3.4.13 GLIBCXX_3.4.14 GLIBCXX_3.4.15 GLIBCXX_3.4.16 GLIBCXX_3.4.17
  GLIBCXX_3.4.18 GLIBCXX_3.4.19 GLIBCXX_3.4.2 GLIBCXX_3.4.20 GLIBCXX_3.4.21 GLIBCXX_3.4.22
  GLIBCXX_3.4.23 GLIBCXX_3.4.24 GLIBCXX_3.4.25 GLIBCXX_3.4.26 GLIBCXX_3.4.27 GLIBCXX_3.4.28
  GLIBCXX_3.4.29 GLIBCXX_3.4.3 GLIBCXX_3.4.30 GLIBCXX_3.4.4 GLIBCXX_3.4.5 GLIBCXX_3.4.6
  GLIBCXX_3.4.7 GLIBCXX_3.4.8 GLIBCXX_3.4.9"

/-- The data of the C++ library. -/
def cxxData : List (String × Nat) := sized (split "
  _ZGVNSt10moneypunctIcLb0EE2idE 8 _ZGVNSt10moneypunctIcLb1EE2idE 8
  _ZGVNSt10moneypunctIwLb0EE2idE 8 _ZGVNSt10moneypunctIwLb1EE2idE 8 _ZGVNSt11__timepunctIcE2idE 8
  _ZGVNSt11__timepunctIwE2idE 8 _ZGVNSt7__cxx1110moneypunctIcLb0EE2idE 8
  _ZGVNSt7__cxx1110moneypunctIcLb1EE2idE 8 _ZGVNSt7__cxx1110moneypunctIwLb0EE2idE 8
  _ZGVNSt7__cxx1110moneypunctIwLb1EE2idE 8 _ZGVNSt7__cxx117collateIcE2idE 8
  _ZGVNSt7__cxx117collateIwE2idE 8 _ZGVNSt7__cxx118messagesIcE2idE 8
  _ZGVNSt7__cxx118messagesIwE2idE 8 _ZGVNSt7__cxx118numpunctIcE2idE 8
  _ZGVNSt7__cxx118numpunctIwE2idE 8 _ZGVNSt7collateIcE2idE 8 _ZGVNSt7collateIwE2idE 8
  _ZGVNSt8messagesIcE2idE 8 _ZGVNSt8messagesIwE2idE 8 _ZGVNSt8numpunctIcE2idE 8
  _ZGVNSt8numpunctIwE2idE 8 _ZNSbIwSt11char_traitsIwESaIwEE4nposE 8 _ZNSs4_Rep11_S_max_sizeE 8
  _ZNSs4_Rep11_S_terminalE 1 _ZNSs4_Rep20_S_empty_rep_storageE 32 _ZNSs4nposE 8
  _ZNSt10__num_base11_S_atoms_inE 8 _ZNSt10__num_base12_S_atoms_outE 8 _ZNSt10ctype_base5alnumE 2
  _ZNSt10ctype_base5alphaE 2 _ZNSt10ctype_base5blankE 2 _ZNSt10ctype_base5cntrlE 2
  _ZNSt10ctype_base5digitE 2 _ZNSt10ctype_base5graphE 2 _ZNSt10ctype_base5lowerE 2
  _ZNSt10ctype_base5printE 2 _ZNSt10ctype_base5punctE 2 _ZNSt10ctype_base5spaceE 2
  _ZNSt10ctype_base5upperE 2 _ZNSt10ctype_base6xdigitE 2 _ZNSt10money_base18_S_default_patternE 4
  _ZNSt10money_base8_S_atomsE 8 _ZNSt10moneypunctIcLb0EE2idE 8 _ZNSt10moneypunctIcLb0EE4intlE 1
  _ZNSt10moneypunctIcLb1EE2idE 8 _ZNSt10moneypunctIcLb1EE4intlE 1 _ZNSt10moneypunctIwLb0EE2idE 8
  _ZNSt10moneypunctIwLb0EE4intlE 1 _ZNSt10moneypunctIwLb1EE2idE 8
  _ZNSt10moneypunctIwLb1EE4intlE 1 _ZNSt11__timepunctIcE2idE 8 _ZNSt11__timepunctIwE2idE 8
  _ZNSt12placeholders2_1E 1 _ZNSt12placeholders2_2E 1 _ZNSt12placeholders2_3E 1
  _ZNSt12placeholders2_4E 1 _ZNSt12placeholders2_5E 1 _ZNSt12placeholders2_6E 1
  _ZNSt12placeholders2_7E 1 _ZNSt12placeholders2_8E 1 _ZNSt12placeholders2_9E 1
  _ZNSt12placeholders3_10E 1 _ZNSt12placeholders3_11E 1 _ZNSt12placeholders3_12E 1
  _ZNSt12placeholders3_13E 1 _ZNSt12placeholders3_14E 1 _ZNSt12placeholders3_15E 1
  _ZNSt12placeholders3_16E 1 _ZNSt12placeholders3_17E 1 _ZNSt12placeholders3_18E 1
  _ZNSt12placeholders3_19E 1 _ZNSt12placeholders3_20E 1 _ZNSt12placeholders3_21E 1
  _ZNSt12placeholders3_22E 1 _ZNSt12placeholders3_23E 1 _ZNSt12placeholders3_24E 1
  _ZNSt12placeholders3_25E 1 _ZNSt12placeholders3_26E 1 _ZNSt12placeholders3_27E 1
  _ZNSt12placeholders3_28E 1 _ZNSt12placeholders3_29E 1 _ZNSt14numeric_limitsIDiE10has_denormE 4
  _ZNSt14numeric_limitsIDiE10is_boundedE 1 _ZNSt14numeric_limitsIDiE10is_integerE 1
  _ZNSt14numeric_limitsIDiE11round_styleE 4 _ZNSt14numeric_limitsIDiE12has_infinityE 1
  _ZNSt14numeric_limitsIDiE12max_digits10E 4 _ZNSt14numeric_limitsIDiE12max_exponentE 4
  _ZNSt14numeric_limitsIDiE12min_exponentE 4 _ZNSt14numeric_limitsIDiE5radixE 4
  _ZNSt14numeric_limitsIDiE5trapsE 1 _ZNSt14numeric_limitsIDiE6digitsE 4
  _ZNSt14numeric_limitsIDiE8digits10E 4 _ZNSt14numeric_limitsIDiE8is_exactE 1
  _ZNSt14numeric_limitsIDiE9is_iec559E 1 _ZNSt14numeric_limitsIDiE9is_moduloE 1
  _ZNSt14numeric_limitsIDiE9is_signedE 1 _ZNSt14numeric_limitsIDsE10has_denormE 4
  _ZNSt14numeric_limitsIDsE10is_boundedE 1 _ZNSt14numeric_limitsIDsE10is_integerE 1
  _ZNSt14numeric_limitsIDsE11round_styleE 4 _ZNSt14numeric_limitsIDsE12has_infinityE 1
  _ZNSt14numeric_limitsIDsE12max_digits10E 4 _ZNSt14numeric_limitsIDsE12max_exponentE 4
  _ZNSt14numeric_limitsIDsE12min_exponentE 4 _ZNSt14numeric_limitsIDsE5radixE 4
  _ZNSt14numeric_limitsIDsE5trapsE 1 _ZNSt14numeric_limitsIDsE6digitsE 4
  _ZNSt14numeric_limitsIDsE8digits10E 4 _ZNSt14numeric_limitsIDsE8is_exactE 1
  _ZNSt14numeric_limitsIDsE9is_iec559E 1 _ZNSt14numeric_limitsIDsE9is_moduloE 1
  _ZNSt14numeric_limitsIDsE9is_signedE 1 _ZNSt14numeric_limitsIDuE10has_denormE 4
  _ZNSt14numeric_limitsIDuE10is_boundedE 1 _ZNSt14numeric_limitsIDuE10is_integerE 1
  _ZNSt14numeric_limitsIDuE11round_styleE 4 _ZNSt14numeric_limitsIDuE12has_infinityE 1
  _ZNSt14numeric_limitsIDuE12max_exponentE 4 _ZNSt14numeric_limitsIDuE12min_exponentE 4
  _ZNSt14numeric_limitsIDuE5radixE 4 _ZNSt14numeric_limitsIDuE5trapsE 1
  _ZNSt14numeric_limitsIDuE6digitsE 4 _ZNSt14numeric_limitsIDuE8digits10E 4
  _ZNSt14numeric_limitsIDuE8is_exactE 1 _ZNSt14numeric_limitsIDuE9is_iec559E 1
  _ZNSt14numeric_limitsIDuE9is_moduloE 1 _ZNSt14numeric_limitsIDuE9is_signedE 1
  _ZNSt14numeric_limitsIaE10has_denormE 4 _ZNSt14numeric_limitsIaE10is_boundedE 1
  _ZNSt14numeric_limitsIaE10is_integerE 1 _ZNSt14numeric_limitsIaE11round_styleE 4
  _ZNSt14numeric_limitsIaE12has_infinityE 1 _ZNSt14numeric_limitsIaE12max_digits10E 4
  _ZNSt14numeric_limitsIaE12max_exponentE 4 _ZNSt14numeric_limitsIaE12min_exponentE 4
  _ZNSt14numeric_limitsIaE13has_quiet_NaNE 1 _ZNSt14numeric_limitsIaE5radixE 4
  _ZNSt14numeric_limitsIaE5trapsE 1 _ZNSt14numeric_limitsIaE6digitsE 4
  _ZNSt14numeric_limitsIaE8digits10E 4 _ZNSt14numeric_limitsIaE8is_exactE 1
  _ZNSt14numeric_limitsIaE9is_iec559E 1 _ZNSt14numeric_limitsIaE9is_moduloE 1
  _ZNSt14numeric_limitsIaE9is_signedE 1 _ZNSt14numeric_limitsIbE10has_denormE 4
  _ZNSt14numeric_limitsIbE10is_boundedE 1 _ZNSt14numeric_limitsIbE10is_integerE 1
  _ZNSt14numeric_limitsIbE11round_styleE 4 _ZNSt14numeric_limitsIbE12has_infinityE 1
  _ZNSt14numeric_limitsIbE12max_digits10E 4 _ZNSt14numeric_limitsIbE12max_exponentE 4
  _ZNSt14numeric_limitsIbE12min_exponentE 4 _ZNSt14numeric_limitsIbE13has_quiet_NaNE 1
  _ZNSt14numeric_limitsIbE5radixE 4 _ZNSt14numeric_limitsIbE5trapsE 1
  _ZNSt14numeric_limitsIbE6digitsE 4 _ZNSt14numeric_limitsIbE8digits10E 4
  _ZNSt14numeric_limitsIbE8is_exactE 1 _ZNSt14numeric_limitsIbE9is_iec559E 1
  _ZNSt14numeric_limitsIbE9is_moduloE 1 _ZNSt14numeric_limitsIbE9is_signedE 1
  _ZNSt14numeric_limitsIcE10has_denormE 4 _ZNSt14numeric_limitsIcE10is_boundedE 1
  _ZNSt14numeric_limitsIcE10is_integerE 1 _ZNSt14numeric_limitsIcE11round_styleE 4
  _ZNSt14numeric_limitsIcE12has_infinityE 1 _ZNSt14numeric_limitsIcE12max_digits10E 4
  _ZNSt14numeric_limitsIcE12max_exponentE 4 _ZNSt14numeric_limitsIcE12min_exponentE 4
  _ZNSt14numeric_limitsIcE13has_quiet_NaNE 1 _ZNSt14numeric_limitsIcE5radixE 4
  _ZNSt14numeric_limitsIcE5trapsE 1 _ZNSt14numeric_limitsIcE6digitsE 4
  _ZNSt14numeric_limitsIcE8digits10E 4 _ZNSt14numeric_limitsIcE8is_exactE 1
  _ZNSt14numeric_limitsIcE9is_iec559E 1 _ZNSt14numeric_limitsIcE9is_moduloE 1
  _ZNSt14numeric_limitsIcE9is_signedE 1 _ZNSt14numeric_limitsIdE10has_denormE 4
  _ZNSt14numeric_limitsIdE10is_boundedE 1 _ZNSt14numeric_limitsIdE10is_integerE 1
  _ZNSt14numeric_limitsIdE11round_styleE 4 _ZNSt14numeric_limitsIdE12has_infinityE 1
  _ZNSt14numeric_limitsIdE12max_digits10E 4 _ZNSt14numeric_limitsIdE12max_exponentE 4
  _ZNSt14numeric_limitsIdE12min_exponentE 4 _ZNSt14numeric_limitsIdE13has_quiet_NaNE 1
  _ZNSt14numeric_limitsIdE5radixE 4 _ZNSt14numeric_limitsIdE5trapsE 1
  _ZNSt14numeric_limitsIdE6digitsE 4 _ZNSt14numeric_limitsIdE8digits10E 4
  _ZNSt14numeric_limitsIdE8is_exactE 1 _ZNSt14numeric_limitsIdE9is_iec559E 1
  _ZNSt14numeric_limitsIdE9is_moduloE 1 _ZNSt14numeric_limitsIdE9is_signedE 1
  _ZNSt14numeric_limitsIeE10has_denormE 4 _ZNSt14numeric_limitsIeE10is_boundedE 1
  _ZNSt14numeric_limitsIeE10is_integerE 1 _ZNSt14numeric_limitsIeE11round_styleE 4
  _ZNSt14numeric_limitsIeE12has_infinityE 1 _ZNSt14numeric_limitsIeE12max_digits10E 4
  _ZNSt14numeric_limitsIeE12max_exponentE 4 _ZNSt14numeric_limitsIeE12min_exponentE 4
  _ZNSt14numeric_limitsIeE13has_quiet_NaNE 1 _ZNSt14numeric_limitsIeE5radixE 4
  _ZNSt14numeric_limitsIeE5trapsE 1 _ZNSt14numeric_limitsIeE6digitsE 4
  _ZNSt14numeric_limitsIeE8digits10E 4 _ZNSt14numeric_limitsIeE8is_exactE 1
  _ZNSt14numeric_limitsIeE9is_iec559E 1 _ZNSt14numeric_limitsIeE9is_moduloE 1
  _ZNSt14numeric_limitsIeE9is_signedE 1 _ZNSt14numeric_limitsIfE10has_denormE 4
  _ZNSt14numeric_limitsIfE10is_boundedE 1 _ZNSt14numeric_limitsIfE10is_integerE 1
  _ZNSt14numeric_limitsIfE11round_styleE 4 _ZNSt14numeric_limitsIfE12has_infinityE 1
  _ZNSt14numeric_limitsIfE12max_digits10E 4 _ZNSt14numeric_limitsIfE12max_exponentE 4
  _ZNSt14numeric_limitsIfE12min_exponentE 4 _ZNSt14numeric_limitsIfE13has_quiet_NaNE 1
  _ZNSt14numeric_limitsIfE5radixE 4 _ZNSt14numeric_limitsIfE5trapsE 1
  _ZNSt14numeric_limitsIfE6digitsE 4 _ZNSt14numeric_limitsIfE8digits10E 4
  _ZNSt14numeric_limitsIfE8is_exactE 1 _ZNSt14numeric_limitsIfE9is_iec559E 1
  _ZNSt14numeric_limitsIfE9is_moduloE 1 _ZNSt14numeric_limitsIfE9is_signedE 1
  _ZNSt14numeric_limitsIhE10has_denormE 4 _ZNSt14numeric_limitsIhE10is_boundedE 1
  _ZNSt14numeric_limitsIhE10is_integerE 1 _ZNSt14numeric_limitsIhE11round_styleE 4
  _ZNSt14numeric_limitsIhE12has_infinityE 1 _ZNSt14numeric_limitsIhE12max_digits10E 4
  _ZNSt14numeric_limitsIhE12max_exponentE 4 _ZNSt14numeric_limitsIhE12min_exponentE 4
  _ZNSt14numeric_limitsIhE13has_quiet_NaNE 1 _ZNSt14numeric_limitsIhE5radixE 4
  _ZNSt14numeric_limitsIhE5trapsE 1 _ZNSt14numeric_limitsIhE6digitsE 4
  _ZNSt14numeric_limitsIhE8digits10E 4 _ZNSt14numeric_limitsIhE8is_exactE 1
  _ZNSt14numeric_limitsIhE9is_iec559E 1 _ZNSt14numeric_limitsIhE9is_moduloE 1
  _ZNSt14numeric_limitsIhE9is_signedE 1 _ZNSt14numeric_limitsIiE10has_denormE 4
  _ZNSt14numeric_limitsIiE10is_boundedE 1 _ZNSt14numeric_limitsIiE10is_integerE 1
  _ZNSt14numeric_limitsIiE11round_styleE 4 _ZNSt14numeric_limitsIiE12has_infinityE 1
  _ZNSt14numeric_limitsIiE12max_digits10E 4 _ZNSt14numeric_limitsIiE12max_exponentE 4
  _ZNSt14numeric_limitsIiE12min_exponentE 4 _ZNSt14numeric_limitsIiE13has_quiet_NaNE 1
  _ZNSt14numeric_limitsIiE5radixE 4 _ZNSt14numeric_limitsIiE5trapsE 1
  _ZNSt14numeric_limitsIiE6digitsE 4 _ZNSt14numeric_limitsIiE8digits10E 4
  _ZNSt14numeric_limitsIiE8is_exactE 1 _ZNSt14numeric_limitsIiE9is_iec559E 1
  _ZNSt14numeric_limitsIiE9is_moduloE 1 _ZNSt14numeric_limitsIiE9is_signedE 1
  _ZNSt14numeric_limitsIjE10has_denormE 4 _ZNSt14numeric_limitsIjE10is_boundedE 1
  _ZNSt14numeric_limitsIjE10is_integerE 1 _ZNSt14numeric_limitsIjE11round_styleE 4
  _ZNSt14numeric_limitsIjE12has_infinityE 1 _ZNSt14numeric_limitsIjE12max_digits10E 4
  _ZNSt14numeric_limitsIjE12max_exponentE 4 _ZNSt14numeric_limitsIjE12min_exponentE 4
  _ZNSt14numeric_limitsIjE13has_quiet_NaNE 1 _ZNSt14numeric_limitsIjE5radixE 4
  _ZNSt14numeric_limitsIjE5trapsE 1 _ZNSt14numeric_limitsIjE6digitsE 4
  _ZNSt14numeric_limitsIjE8digits10E 4 _ZNSt14numeric_limitsIjE8is_exactE 1
  _ZNSt14numeric_limitsIjE9is_iec559E 1 _ZNSt14numeric_limitsIjE9is_moduloE 1
  _ZNSt14numeric_limitsIjE9is_signedE 1 _ZNSt14numeric_limitsIlE10has_denormE 4
  _ZNSt14numeric_limitsIlE10is_boundedE 1 _ZNSt14numeric_limitsIlE10is_integerE 1
  _ZNSt14numeric_limitsIlE11round_styleE 4 _ZNSt14numeric_limitsIlE12has_infinityE 1
  _ZNSt14numeric_limitsIlE12max_digits10E 4 _ZNSt14numeric_limitsIlE12max_exponentE 4
  _ZNSt14numeric_limitsIlE12min_exponentE 4 _ZNSt14numeric_limitsIlE13has_quiet_NaNE 1
  _ZNSt14numeric_limitsIlE5radixE 4 _ZNSt14numeric_limitsIlE5trapsE 1
  _ZNSt14numeric_limitsIlE6digitsE 4 _ZNSt14numeric_limitsIlE8digits10E 4
  _ZNSt14numeric_limitsIlE8is_exactE 1 _ZNSt14numeric_limitsIlE9is_iec559E 1
  _ZNSt14numeric_limitsIlE9is_moduloE 1 _ZNSt14numeric_limitsIlE9is_signedE 1
  _ZNSt14numeric_limitsImE10has_denormE 4 _ZNSt14numeric_limitsImE10is_boundedE 1
  _ZNSt14numeric_limitsImE10is_integerE 1 _ZNSt14numeric_limitsImE11round_styleE 4
  _ZNSt14numeric_limitsImE12has_infinityE 1 _ZNSt14numeric_limitsImE12max_digits10E 4
  _ZNSt14numeric_limitsImE12max_exponentE 4 _ZNSt14numeric_limitsImE12min_exponentE 4
  _ZNSt14numeric_limitsImE13has_quiet_NaNE 1 _ZNSt14numeric_limitsImE5radixE 4
  _ZNSt14numeric_limitsImE5trapsE 1 _ZNSt14numeric_limitsImE6digitsE 4
  _ZNSt14numeric_limitsImE8digits10E 4 _ZNSt14numeric_limitsImE8is_exactE 1
  _ZNSt14numeric_limitsImE9is_iec559E 1 _ZNSt14numeric_limitsImE9is_moduloE 1
  _ZNSt14numeric_limitsImE9is_signedE 1 _ZNSt14numeric_limitsInE10has_denormE 4
  _ZNSt14numeric_limitsInE10is_boundedE 1 _ZNSt14numeric_limitsInE10is_integerE 1
  _ZNSt14numeric_limitsInE11round_styleE 4 _ZNSt14numeric_limitsInE12has_infinityE 1
  _ZNSt14numeric_limitsInE12max_digits10E 4 _ZNSt14numeric_limitsInE12max_exponentE 4
  _ZNSt14numeric_limitsInE12min_exponentE 4 _ZNSt14numeric_limitsInE13has_quiet_NaNE 1
  _ZNSt14numeric_limitsInE5radixE 4 _ZNSt14numeric_limitsInE5trapsE 1
  _ZNSt14numeric_limitsInE6digitsE 4 _ZNSt14numeric_limitsInE8digits10E 4
  _ZNSt14numeric_limitsInE8is_exactE 1 _ZNSt14numeric_limitsInE9is_iec559E 1
  _ZNSt14numeric_limitsInE9is_moduloE 1 _ZNSt14numeric_limitsInE9is_signedE 1
  _ZNSt14numeric_limitsIoE10has_denormE 4 _ZNSt14numeric_limitsIoE10is_boundedE 1
  _ZNSt14numeric_limitsIoE10is_integerE 1 _ZNSt14numeric_limitsIoE11round_styleE 4
  _ZNSt14numeric_limitsIoE12has_infinityE 1 _ZNSt14numeric_limitsIoE12max_digits10E 4
  _ZNSt14numeric_limitsIoE12max_exponentE 4 _ZNSt14numeric_limitsIoE12min_exponentE 4
  _ZNSt14numeric_limitsIoE13has_quiet_NaNE 1 _ZNSt14numeric_limitsIoE5radixE 4
  _ZNSt14numeric_limitsIoE5trapsE 1 _ZNSt14numeric_limitsIoE6digitsE 4
  _ZNSt14numeric_limitsIoE8digits10E 4 _ZNSt14numeric_limitsIoE8is_exactE 1
  _ZNSt14numeric_limitsIoE9is_iec559E 1 _ZNSt14numeric_limitsIoE9is_moduloE 1
  _ZNSt14numeric_limitsIoE9is_signedE 1 _ZNSt14numeric_limitsIsE10has_denormE 4
  _ZNSt14numeric_limitsIsE10is_boundedE 1 _ZNSt14numeric_limitsIsE10is_integerE 1
  _ZNSt14numeric_limitsIsE11round_styleE 4 _ZNSt14numeric_limitsIsE12has_infinityE 1
  _ZNSt14numeric_limitsIsE12max_digits10E 4 _ZNSt14numeric_limitsIsE12max_exponentE 4
  _ZNSt14numeric_limitsIsE12min_exponentE 4 _ZNSt14numeric_limitsIsE13has_quiet_NaNE 1
  _ZNSt14numeric_limitsIsE5radixE 4 _ZNSt14numeric_limitsIsE5trapsE 1
  _ZNSt14numeric_limitsIsE6digitsE 4 _ZNSt14numeric_limitsIsE8digits10E 4
  _ZNSt14numeric_limitsIsE8is_exactE 1 _ZNSt14numeric_limitsIsE9is_iec559E 1
  _ZNSt14numeric_limitsIsE9is_moduloE 1 _ZNSt14numeric_limitsIsE9is_signedE 1
  _ZNSt14numeric_limitsItE10has_denormE 4 _ZNSt14numeric_limitsItE10is_boundedE 1
  _ZNSt14numeric_limitsItE10is_integerE 1 _ZNSt14numeric_limitsItE11round_styleE 4
  _ZNSt14numeric_limitsItE12has_infinityE 1 _ZNSt14numeric_limitsItE12max_digits10E 4
  _ZNSt14numeric_limitsItE12max_exponentE 4 _ZNSt14numeric_limitsItE12min_exponentE 4
  _ZNSt14numeric_limitsItE13has_quiet_NaNE 1 _ZNSt14numeric_limitsItE5radixE 4
  _ZNSt14numeric_limitsItE5trapsE 1 _ZNSt14numeric_limitsItE6digitsE 4
  _ZNSt14numeric_limitsItE8digits10E 4 _ZNSt14numeric_limitsItE8is_exactE 1
  _ZNSt14numeric_limitsItE9is_iec559E 1 _ZNSt14numeric_limitsItE9is_moduloE 1
  _ZNSt14numeric_limitsItE9is_signedE 1 _ZNSt14numeric_limitsIwE10has_denormE 4
  _ZNSt14numeric_limitsIwE10is_boundedE 1 _ZNSt14numeric_limitsIwE10is_integerE 1
  _ZNSt14numeric_limitsIwE11round_styleE 4 _ZNSt14numeric_limitsIwE12has_infinityE 1
  _ZNSt14numeric_limitsIwE12max_digits10E 4 _ZNSt14numeric_limitsIwE12max_exponentE 4
  _ZNSt14numeric_limitsIwE12min_exponentE 4 _ZNSt14numeric_limitsIwE13has_quiet_NaNE 1
  _ZNSt14numeric_limitsIwE5radixE 4 _ZNSt14numeric_limitsIwE5trapsE 1
  _ZNSt14numeric_limitsIwE6digitsE 4 _ZNSt14numeric_limitsIwE8digits10E 4
  _ZNSt14numeric_limitsIwE8is_exactE 1 _ZNSt14numeric_limitsIwE9is_iec559E 1
  _ZNSt14numeric_limitsIwE9is_moduloE 1 _ZNSt14numeric_limitsIwE9is_signedE 1
  _ZNSt14numeric_limitsIxE10has_denormE 4 _ZNSt14numeric_limitsIxE10is_boundedE 1
  _ZNSt14numeric_limitsIxE10is_integerE 1 _ZNSt14numeric_limitsIxE11round_styleE 4
  _ZNSt14numeric_limitsIxE12has_infinityE 1 _ZNSt14numeric_limitsIxE12max_digits10E 4
  _ZNSt14numeric_limitsIxE12max_exponentE 4 _ZNSt14numeric_limitsIxE12min_exponentE 4
  _ZNSt14numeric_limitsIxE13has_quiet_NaNE 1 _ZNSt14numeric_limitsIxE5radixE 4
  _ZNSt14numeric_limitsIxE5trapsE 1 _ZNSt14numeric_limitsIxE6digitsE 4
  _ZNSt14numeric_limitsIxE8digits10E 4 _ZNSt14numeric_limitsIxE8is_exactE 1
  _ZNSt14numeric_limitsIxE9is_iec559E 1 _ZNSt14numeric_limitsIxE9is_moduloE 1
  _ZNSt14numeric_limitsIxE9is_signedE 1 _ZNSt14numeric_limitsIyE10has_denormE 4
  _ZNSt14numeric_limitsIyE10is_boundedE 1 _ZNSt14numeric_limitsIyE10is_integerE 1
  _ZNSt14numeric_limitsIyE11round_styleE 4 _ZNSt14numeric_limitsIyE12has_infinityE 1
  _ZNSt14numeric_limitsIyE12max_digits10E 4 _ZNSt14numeric_limitsIyE12max_exponentE 4
  _ZNSt14numeric_limitsIyE12min_exponentE 4 _ZNSt14numeric_limitsIyE13has_quiet_NaNE 1
  _ZNSt14numeric_limitsIyE5radixE 4 _ZNSt14numeric_limitsIyE5trapsE 1
  _ZNSt14numeric_limitsIyE6digitsE 4 _ZNSt14numeric_limitsIyE8digits10E 4
  _ZNSt14numeric_limitsIyE8is_exactE 1 _ZNSt14numeric_limitsIyE9is_iec559E 1
  _ZNSt14numeric_limitsIyE9is_moduloE 1 _ZNSt14numeric_limitsIyE9is_signedE 1
  _ZNSt17moneypunct_bynameIcLb0EE4intlE 1 _ZNSt17moneypunct_bynameIcLb1EE4intlE 1
  _ZNSt17moneypunct_bynameIwLb0EE4intlE 1 _ZNSt17moneypunct_bynameIwLb1EE4intlE 1
  _ZNSt21__numeric_limits_base5radixE 4 _ZNSt21__numeric_limits_base5trapsE 1
  _ZNSt21__numeric_limits_base6digitsE 4 _ZNSt21__numeric_limits_base8digits10E 4
  _ZNSt21__numeric_limits_base8is_exactE 1 _ZNSt21__numeric_limits_base9is_iec559E 1
  _ZNSt21__numeric_limits_base9is_moduloE 1 _ZNSt21__numeric_limits_base9is_signedE 1
  _ZNSt3tr18__detail12__prime_listE 2440 _ZNSt5ctypeIcE10table_sizeE 8 _ZNSt5ctypeIcE2idE 8
  _ZNSt5ctypeIwE2idE 8 _ZNSt6locale3allE 4 _ZNSt6locale4noneE 4 _ZNSt6locale4timeE 4
  _ZNSt6locale5ctypeE 4 _ZNSt6locale7collateE 4 _ZNSt6locale7numericE 4 _ZNSt6locale8messagesE 4
  _ZNSt6locale8monetaryE 4 _ZNSt7__cxx1110moneypunctIcLb0EE2idE 8
  _ZNSt7__cxx1110moneypunctIcLb0EE4intlE 1 _ZNSt7__cxx1110moneypunctIcLb1EE2idE 8
  _ZNSt7__cxx1110moneypunctIcLb1EE4intlE 1 _ZNSt7__cxx1110moneypunctIwLb0EE2idE 8
  _ZNSt7__cxx1110moneypunctIwLb0EE4intlE 1 _ZNSt7__cxx1110moneypunctIwLb1EE2idE 8
  _ZNSt7__cxx1110moneypunctIwLb1EE4intlE 1 _ZNSt7__cxx117collateIcE2idE 8
  _ZNSt7__cxx117collateIwE2idE 8 _ZNSt7__cxx118messagesIcE2idE 8 _ZNSt7__cxx118messagesIwE2idE 8
  _ZNSt7__cxx118numpunctIcE2idE 8 _ZNSt7__cxx118numpunctIwE2idE 8
  _ZNSt7codecvtIDiDu11__mbstate_tE2idE 8 _ZNSt7codecvtIDic11__mbstate_tE2idE 8
  _ZNSt7codecvtIDsDu11__mbstate_tE2idE 8 _ZNSt7codecvtIDsc11__mbstate_tE2idE 8
  _ZNSt7codecvtIcc11__mbstate_tE2idE 8 _ZNSt7codecvtIwc11__mbstate_tE2idE 8
  _ZNSt7collateIcE2idE 8 _ZNSt7collateIwE2idE 8 _ZNSt8__detail12__prime_listE 2440
  _ZNSt8ios_base10floatfieldE 4 _ZNSt8ios_base10scientificE 4 _ZNSt8ios_base11adjustfieldE 4
  _ZNSt8ios_base2inE 4 _ZNSt8ios_base3appE 4 _ZNSt8ios_base3ateE 4 _ZNSt8ios_base3begE 4
  _ZNSt8ios_base3curE 4 _ZNSt8ios_base3decE 4 _ZNSt8ios_base3endE 4 _ZNSt8ios_base3hexE 4
  _ZNSt8ios_base3octE 4 _ZNSt8ios_base3outE 4 _ZNSt8ios_base4leftE 4 _ZNSt8ios_base5fixedE 4
  _ZNSt8ios_base5rightE 4 _ZNSt8ios_base5truncE 4 _ZNSt8ios_base6badbitE 4
  _ZNSt8ios_base6binaryE 4 _ZNSt8ios_base6eofbitE 4 _ZNSt8ios_base6skipwsE 4
  _ZNSt8ios_base7failbitE 4 _ZNSt8ios_base7goodbitE 4 _ZNSt8ios_base7showposE 4
  _ZNSt8ios_base7unitbufE 4 _ZNSt8ios_base8internalE 4 _ZNSt8ios_base8showbaseE 4
  _ZNSt8ios_base9basefieldE 4 _ZNSt8ios_base9boolalphaE 4 _ZNSt8ios_base9showpointE 4
  _ZNSt8ios_base9uppercaseE 4 _ZNSt8messagesIcE2idE 8 _ZNSt8messagesIwE2idE 8
  _ZNSt8numpunctIcE2idE 8 _ZNSt8numpunctIwE2idE 8 _ZSt10adopt_lock 1 _ZSt10defer_lock 1
  _ZSt11__once_call 8 _ZSt11try_to_lock 1 _ZSt15__once_callable 8 _ZSt15future_category 8
  _ZSt3cin 280 _ZSt4cerr 272 _ZSt4clog 272 _ZSt4cout 272 _ZSt4wcin 280 _ZSt5wcerr 272
  _ZSt5wclog 272 _ZSt5wcout 272 _ZSt7nothrow 1 _ZTIDd 16 _ZTIDe 16 _ZTIDf 16 _ZTIDi 16 _ZTIDn 16
  _ZTIDs 16 _ZTIDu 16 _ZTIN10__cxxabiv115__forced_unwindE 16
  _ZTIN10__cxxabiv116__enum_type_infoE 24 _ZTIN10__cxxabiv117__array_type_infoE 24
  _ZTIN10__cxxabiv117__class_type_infoE 24 _ZTIN10__cxxabiv117__pbase_type_infoE 24
  _ZTIN10__cxxabiv119__foreign_exceptionE 16 _ZTIN10__cxxabiv119__pointer_type_infoE 24
  _ZTIN10__cxxabiv120__function_type_infoE 24 _ZTIN10__cxxabiv120__si_class_type_infoE 24
  _ZTINSt10filesystem16filesystem_errorE 24 _ZTINSt13__future_base11_State_baseE 16
  _ZTINSt13__future_base12_Result_baseE 16 _ZTINSt3_V214error_categoryE 16
  _ZTINSt3pmr15memory_resourceE 16 _ZTINSt3pmr25monotonic_buffer_resourceE 24
  _ZTINSt3pmr26synchronized_pool_resourceE 24 _ZTINSt6locale5facetE 16 _ZTINSt6thread6_StateE 16
  _ZTINSt7__cxx1110moneypunctIcLb0EEE 56 _ZTINSt7__cxx1110moneypunctIcLb1EEE 56
  _ZTINSt7__cxx1110moneypunctIwLb0EEE 56 _ZTINSt7__cxx1110moneypunctIwLb1EEE 56
  _ZTINSt7__cxx1114collate_bynameIcEE 24 _ZTINSt7__cxx1114collate_bynameIwEE 24
  _ZTINSt7__cxx1115messages_bynameIcEE 24 _ZTINSt7__cxx1115messages_bynameIwEE 24
  _ZTINSt7__cxx1115numpunct_bynameIcEE 24 _ZTINSt7__cxx1115numpunct_bynameIwEE 24
  _ZTINSt7__cxx117collateIcEE 24 _ZTINSt7__cxx117collateIwEE 24 _ZTINSt7__cxx118messagesIcEE 56
  _ZTINSt7__cxx118messagesIwEE 56 _ZTINSt7__cxx118numpunctIcEE 24 _ZTINSt7__cxx118numpunctIwEE 24
  _ZTINSt8ios_base7failureB5cxx11E 24 _ZTINSt8ios_base7failureE 24 _ZTIPDd 32 _ZTIPDe 32
  _ZTIPDf 32 _ZTIPDi 32 _ZTIPDn 32 _ZTIPDs 32 _ZTIPDu 32 _ZTIPKDd 32 _ZTIPKDe 32 _ZTIPKDf 32
  _ZTIPKDi 32 _ZTIPKDn 32 _ZTIPKDs 32 _ZTIPKDu 32 _ZTIPKa 32 _ZTIPKb 32 _ZTIPKc 32 _ZTIPKd 32
  _ZTIPKe 32 _ZTIPKf 32 _ZTIPKg 32 _ZTIPKh 32 _ZTIPKi 32 _ZTIPKj 32 _ZTIPKl 32 _ZTIPKm 32
  _ZTIPKn 32 _ZTIPKo 32 _ZTIPKs 32 _ZTIPKt 32 _ZTIPKv 32 _ZTIPKw 32 _ZTIPKx 32 _ZTIPKy 32
  _ZTIPa 32 _ZTIPb 32 _ZTIPc 32 _ZTIPd 32 _ZTIPe 32 _ZTIPf 32 _ZTIPg 32 _ZTIPh 32 _ZTIPi 32
  _ZTIPj 32 _ZTIPl 32 _ZTIPm 32 _ZTIPn 32 _ZTIPo 32 _ZTIPs 32 _ZTIPt 32 _ZTIPv 32 _ZTIPw 32
  _ZTIPx 32 _ZTIPy 32 _ZTISd 56 _ZTISi 40 _ZTISo 40 _ZTISt10bad_typeid 24 _ZTISt10ctype_base 16
  _ZTISt10istrstream 24 _ZTISt10lock_error 24 _ZTISt10money_base 16 _ZTISt10moneypunctIcLb0EE 56
  _ZTISt10moneypunctIcLb1EE 56 _ZTISt10moneypunctIwLb0EE 56 _ZTISt10moneypunctIwLb1EE 56
  _ZTISt10ostrstream 24 _ZTISt11__timepunctIcE 24 _ZTISt11__timepunctIwE 24
  _ZTISt11logic_error 24 _ZTISt11range_error 24 _ZTISt11regex_error 24 _ZTISt12bad_weak_ptr 24
  _ZTISt12codecvt_base 16 _ZTISt12ctype_bynameIcE 24 _ZTISt12ctype_bynameIwE 24
  _ZTISt12domain_error 24 _ZTISt12future_error 24 _ZTISt12length_error 24 _ZTISt12out_of_range 24
  _ZTISt12strstreambuf 24 _ZTISt12system_error 24 _ZTISt13bad_exception 24
  _ZTISt13messages_base 16 _ZTISt13runtime_error 24 _ZTISt14codecvt_bynameIcc11__mbstate_tE 24
  _ZTISt14codecvt_bynameIwc11__mbstate_tE 24 _ZTISt14collate_bynameIcE 24
  _ZTISt14collate_bynameIwE 24 _ZTISt14error_category 16 _ZTISt14overflow_error 24
  _ZTISt15messages_bynameIcE 24 _ZTISt15messages_bynameIwE 24 _ZTISt15numpunct_bynameIcE 24
  _ZTISt15numpunct_bynameIwE 24 _ZTISt15underflow_error 24 _ZTISt16bad_array_length 24
  _ZTISt16invalid_argument 24 _ZTISt16nested_exception 16 _ZTISt17bad_function_call 24
  _ZTISt17moneypunct_bynameIcLb0EE 24 _ZTISt17moneypunct_bynameIcLb1EE 24
  _ZTISt17moneypunct_bynameIwLb0EE 24 _ZTISt17moneypunct_bynameIwLb1EE 24
  _ZTISt19__codecvt_utf8_baseIDiE 24 _ZTISt19__codecvt_utf8_baseIDsE 24
  _ZTISt19__codecvt_utf8_baseIwE 24 _ZTISt20__codecvt_utf16_baseIDiE 24
  _ZTISt20__codecvt_utf16_baseIDsE 24 _ZTISt20__codecvt_utf16_baseIwE 24
  _ZTISt20bad_array_new_length 24 _ZTISt21__ctype_abstract_baseIcE 56
  _ZTISt21__ctype_abstract_baseIwE 56 _ZTISt25__codecvt_utf8_utf16_baseIDiE 24
  _ZTISt25__codecvt_utf8_utf16_baseIDsE 24 _ZTISt25__codecvt_utf8_utf16_baseIwE 24
  _ZTISt5ctypeIcE 56 _ZTISt5ctypeIwE 24 _ZTISt7codecvtIDiDu11__mbstate_tE 24
  _ZTISt7codecvtIDic11__mbstate_tE 24 _ZTISt7codecvtIDsDu11__mbstate_tE 24
  _ZTISt7codecvtIDsc11__mbstate_tE 24 _ZTISt7codecvtIcc11__mbstate_tE 24
  _ZTISt7codecvtIwc11__mbstate_tE 24 _ZTISt7collateIcE 24 _ZTISt7collateIwE 24 _ZTISt8bad_cast 24
  _ZTISt8ios_base 16 _ZTISt8messagesIcE 56 _ZTISt8messagesIwE 56 _ZTISt8numpunctIcE 24
  _ZTISt8numpunctIwE 24 _ZTISt9bad_alloc 24 _ZTISt9basic_iosIcSt11char_traitsIcEE 24
  _ZTISt9basic_iosIwSt11char_traitsIwEE 24 _ZTISt9exception 16 _ZTISt9strstream 24
  _ZTISt9time_base 16 _ZTISt9type_info 16 _ZTIa 16 _ZTIb 16 _ZTIc 16 _ZTId 16 _ZTIe 16 _ZTIf 16
  _ZTIg 16 _ZTIh 16 _ZTIi 16 _ZTIj 16 _ZTIl 16 _ZTIm 16 _ZTIn 16 _ZTIo 16 _ZTIs 16 _ZTIt 16
  _ZTIv 16 _ZTIw 16 _ZTIx 16 _ZTIy 16 _ZTSN10__cxxabiv116__enum_type_infoE 33
  _ZTSN10__cxxabiv117__array_type_infoE 34 _ZTSN10__cxxabiv117__class_type_infoE 34
  _ZTSN10__cxxabiv117__pbase_type_infoE 34 _ZTSN10__cxxabiv119__pointer_type_infoE 36
  _ZTSN10__cxxabiv120__function_type_infoE 37 _ZTSN10__cxxabiv120__si_class_type_infoE 37
  _ZTSNSt3pmr15memory_resourceE 26 _ZTSNSt3pmr25monotonic_buffer_resourceE 36
  _ZTSNSt6locale5facetE 18 _ZTSNSt6thread6_StateE 19 _ZTSNSt7__cxx1110moneypunctIcLb0EEE 32
  _ZTSNSt7__cxx1110moneypunctIcLb1EEE 32 _ZTSNSt7__cxx1110moneypunctIwLb0EEE 32
  _ZTSNSt7__cxx1110moneypunctIwLb1EEE 32 _ZTSNSt7__cxx1114collate_bynameIcEE 32
  _ZTSNSt7__cxx1114collate_bynameIwEE 32 _ZTSNSt7__cxx1115messages_bynameIcEE 33
  _ZTSNSt7__cxx1115messages_bynameIwEE 33 _ZTSNSt7__cxx1115numpunct_bynameIcEE 33
  _ZTSNSt7__cxx1115numpunct_bynameIwEE 33 _ZTSNSt7__cxx117collateIcEE 24
  _ZTSNSt7__cxx117collateIwEE 24 _ZTSNSt7__cxx118messagesIcEE 25 _ZTSNSt7__cxx118messagesIwEE 25
  _ZTSNSt7__cxx118numpunctIcEE 25 _ZTSNSt7__cxx118numpunctIwEE 25
  _ZTSNSt8ios_base7failureB5cxx11E 29 _ZTSNSt8ios_base7failureE 22 _ZTSPKa 4 _ZTSPKb 4 _ZTSPKc 4
  _ZTSPKd 4 _ZTSPKe 4 _ZTSPKf 4 _ZTSPKg 4 _ZTSPKh 4 _ZTSPKi 4 _ZTSPKj 4 _ZTSPKl 4 _ZTSPKm 4
  _ZTSPKn 4 _ZTSPKo 4 _ZTSPKs 4 _ZTSPKt 4 _ZTSPKv 4 _ZTSPKw 4 _ZTSPKx 4 _ZTSPKy 4 _ZTSPa 3
  _ZTSPb 3 _ZTSPc 3 _ZTSPd 3 _ZTSPe 3 _ZTSPf 3 _ZTSPg 3 _ZTSPh 3 _ZTSPi 3 _ZTSPj 3 _ZTSPl 3
  _ZTSPm 3 _ZTSPn 3 _ZTSPo 3 _ZTSPs 3 _ZTSPt 3 _ZTSPv 3 _ZTSPw 3 _ZTSPx 3 _ZTSPy 3 _ZTSSd 3
  _ZTSSi 3 _ZTSSo 3 _ZTSSt10bad_typeid 15 _ZTSSt10ctype_base 15 _ZTSSt10istrstream 15
  _ZTSSt10lock_error 15 _ZTSSt10money_base 15 _ZTSSt10moneypunctIcLb0EE 22
  _ZTSSt10moneypunctIcLb1EE 22 _ZTSSt10moneypunctIwLb0EE 22 _ZTSSt10moneypunctIwLb1EE 22
  _ZTSSt10ostrstream 15 _ZTSSt11__timepunctIcE 19 _ZTSSt11__timepunctIwE 19
  _ZTSSt11logic_error 16 _ZTSSt11range_error 16 _ZTSSt12codecvt_base 17
  _ZTSSt12ctype_bynameIcE 20 _ZTSSt12ctype_bynameIwE 20 _ZTSSt12domain_error 17
  _ZTSSt12future_error 17 _ZTSSt12length_error 17 _ZTSSt12out_of_range 17 _ZTSSt12strstreambuf 17
  _ZTSSt12system_error 17 _ZTSSt13bad_exception 18 _ZTSSt13messages_base 18
  _ZTSSt13runtime_error 18 _ZTSSt14codecvt_bynameIcc11__mbstate_tE 36
  _ZTSSt14codecvt_bynameIwc11__mbstate_tE 36 _ZTSSt14collate_bynameIcE 22
  _ZTSSt14collate_bynameIwE 22 _ZTSSt14error_category 19 _ZTSSt14overflow_error 19
  _ZTSSt15messages_bynameIcE 23 _ZTSSt15messages_bynameIwE 23 _ZTSSt15numpunct_bynameIcE 23
  _ZTSSt15numpunct_bynameIwE 23 _ZTSSt15underflow_error 20 _ZTSSt16bad_array_length 21
  _ZTSSt16invalid_argument 21 _ZTSSt17moneypunct_bynameIcLb0EE 29
  _ZTSSt17moneypunct_bynameIcLb1EE 29 _ZTSSt17moneypunct_bynameIwLb0EE 29
  _ZTSSt17moneypunct_bynameIwLb1EE 29 _ZTSSt19__codecvt_utf8_baseIDiE 28
  _ZTSSt19__codecvt_utf8_baseIDsE 28 _ZTSSt19__codecvt_utf8_baseIwE 27
  _ZTSSt20__codecvt_utf16_baseIDiE 29 _ZTSSt20__codecvt_utf16_baseIDsE 29
  _ZTSSt20__codecvt_utf16_baseIwE 28 _ZTSSt20bad_array_new_length 25
  _ZTSSt21__ctype_abstract_baseIcE 29 _ZTSSt21__ctype_abstract_baseIwE 29
  _ZTSSt25__codecvt_utf8_utf16_baseIDiE 34 _ZTSSt25__codecvt_utf8_utf16_baseIDsE 34
  _ZTSSt25__codecvt_utf8_utf16_baseIwE 33 _ZTSSt5ctypeIcE 12 _ZTSSt5ctypeIwE 12
  _ZTSSt7codecvtIDiDu11__mbstate_tE 30 _ZTSSt7codecvtIDic11__mbstate_tE 29
  _ZTSSt7codecvtIDsDu11__mbstate_tE 30 _ZTSSt7codecvtIDsc11__mbstate_tE 29
  _ZTSSt7codecvtIcc11__mbstate_tE 28 _ZTSSt7codecvtIwc11__mbstate_tE 28 _ZTSSt7collateIcE 14
  _ZTSSt7collateIwE 14 _ZTSSt8bad_cast 12 _ZTSSt8ios_base 12 _ZTSSt8messagesIcE 15
  _ZTSSt8messagesIwE 15 _ZTSSt8numpunctIcE 15 _ZTSSt8numpunctIwE 15 _ZTSSt9bad_alloc 13
  _ZTSSt9basic_iosIcSt11char_traitsIcEE 34 _ZTSSt9basic_iosIwSt11char_traitsIwEE 34
  _ZTSSt9exception 13 _ZTSSt9strstream 13 _ZTSSt9time_base 13 _ZTSSt9type_info 13 _ZTSa 2 _ZTSb 2
  _ZTSc 2 _ZTSd 2 _ZTSe 2 _ZTSf 2 _ZTSg 2 _ZTSh 2 _ZTSi 2 _ZTSj 2 _ZTSl 2 _ZTSm 2 _ZTSn 2 _ZTSo 2
  _ZTSs 2 _ZTSt 2 _ZTSv 2 _ZTSw 2 _ZTSx 2 _ZTSy 2 _ZTTSd 56 _ZTTSi 16 _ZTTSo 16
  _ZTTSt10istrstream 32 _ZTTSt10ostrstream 32 _ZTTSt9strstream 80
  _ZTVN10__cxxabiv116__enum_type_infoE 64 _ZTVN10__cxxabiv117__array_type_infoE 64
  _ZTVN10__cxxabiv117__class_type_infoE 88 _ZTVN10__cxxabiv117__pbase_type_infoE 72
  _ZTVN10__cxxabiv119__pointer_type_infoE 72 _ZTVN10__cxxabiv120__function_type_infoE 64
  _ZTVN10__cxxabiv120__si_class_type_infoE 88 _ZTVNSt10filesystem16filesystem_errorE 40
  _ZTVNSt13__future_base11_State_baseE 40 _ZTVNSt13__future_base12_Result_baseE 40
  _ZTVNSt3_V214error_categoryE 80 _ZTVNSt3pmr15memory_resourceE 56
  _ZTVNSt3pmr25monotonic_buffer_resourceE 56 _ZTVNSt6locale5facetE 32 _ZTVNSt6thread6_StateE 40
  _ZTVNSt7__cxx1110moneypunctIcLb0EEE 104 _ZTVNSt7__cxx1110moneypunctIcLb1EEE 104
  _ZTVNSt7__cxx1110moneypunctIwLb0EEE 104 _ZTVNSt7__cxx1110moneypunctIwLb1EEE 104
  _ZTVNSt7__cxx1114collate_bynameIcEE 56 _ZTVNSt7__cxx1114collate_bynameIwEE 56
  _ZTVNSt7__cxx1115messages_bynameIcEE 56 _ZTVNSt7__cxx1115messages_bynameIwEE 56
  _ZTVNSt7__cxx1115numpunct_bynameIcEE 72 _ZTVNSt7__cxx1115numpunct_bynameIwEE 72
  _ZTVNSt7__cxx117collateIcEE 56 _ZTVNSt7__cxx117collateIwEE 56 _ZTVNSt7__cxx118messagesIcEE 56
  _ZTVNSt7__cxx118messagesIwEE 56 _ZTVNSt7__cxx118numpunctIcEE 72 _ZTVNSt7__cxx118numpunctIwEE 72
  _ZTVNSt8ios_base7failureB5cxx11E 40 _ZTVNSt8ios_base7failureE 40 _ZTVSd 120 _ZTVSi 80 _ZTVSo 80
  _ZTVSt10bad_typeid 40 _ZTVSt10istrstream 80 _ZTVSt10lock_error 40 _ZTVSt10moneypunctIcLb0EE 104
  _ZTVSt10moneypunctIcLb1EE 104 _ZTVSt10moneypunctIwLb0EE 104 _ZTVSt10moneypunctIwLb1EE 104
  _ZTVSt10ostrstream 80 _ZTVSt11__timepunctIcE 32 _ZTVSt11__timepunctIwE 32
  _ZTVSt11logic_error 40 _ZTVSt11range_error 40 _ZTVSt11regex_error 40 _ZTVSt12bad_weak_ptr 40
  _ZTVSt12ctype_bynameIcE 96 _ZTVSt12ctype_bynameIwE 128 _ZTVSt12domain_error 40
  _ZTVSt12future_error 40 _ZTVSt12length_error 40 _ZTVSt12out_of_range 40
  _ZTVSt12strstreambuf 128 _ZTVSt12system_error 40 _ZTVSt13bad_exception 40
  _ZTVSt13runtime_error 40 _ZTVSt14codecvt_bynameIcc11__mbstate_tE 88
  _ZTVSt14codecvt_bynameIwc11__mbstate_tE 88 _ZTVSt14collate_bynameIcE 56
  _ZTVSt14collate_bynameIwE 56 _ZTVSt14error_category 72 _ZTVSt14overflow_error 40
  _ZTVSt15messages_bynameIcE 56 _ZTVSt15messages_bynameIwE 56 _ZTVSt15numpunct_bynameIcE 72
  _ZTVSt15numpunct_bynameIwE 72 _ZTVSt15underflow_error 40 _ZTVSt16bad_array_length 40
  _ZTVSt16invalid_argument 40 _ZTVSt16nested_exception 32 _ZTVSt17bad_function_call 40
  _ZTVSt17moneypunct_bynameIcLb0EE 104 _ZTVSt17moneypunct_bynameIcLb1EE 104
  _ZTVSt17moneypunct_bynameIwLb0EE 104 _ZTVSt17moneypunct_bynameIwLb1EE 104
  _ZTVSt19__codecvt_utf8_baseIDiE 88 _ZTVSt19__codecvt_utf8_baseIDsE 88
  _ZTVSt19__codecvt_utf8_baseIwE 88 _ZTVSt20__codecvt_utf16_baseIDiE 88
  _ZTVSt20__codecvt_utf16_baseIDsE 88 _ZTVSt20__codecvt_utf16_baseIwE 88
  _ZTVSt20bad_array_new_length 40 _ZTVSt21__ctype_abstract_baseIcE 128
  _ZTVSt21__ctype_abstract_baseIwE 128 _ZTVSt25__codecvt_utf8_utf16_baseIDiE 88
  _ZTVSt25__codecvt_utf8_utf16_baseIDsE 88 _ZTVSt25__codecvt_utf8_utf16_baseIwE 88
  _ZTVSt5ctypeIcE 96 _ZTVSt5ctypeIwE 128 _ZTVSt7codecvtIDiDu11__mbstate_tE 88
  _ZTVSt7codecvtIDic11__mbstate_tE 88 _ZTVSt7codecvtIDsDu11__mbstate_tE 88
  _ZTVSt7codecvtIDsc11__mbstate_tE 88 _ZTVSt7codecvtIcc11__mbstate_tE 88
  _ZTVSt7codecvtIwc11__mbstate_tE 88 _ZTVSt7collateIcE 56 _ZTVSt7collateIwE 56 _ZTVSt8bad_cast 40
  _ZTVSt8ios_base 32 _ZTVSt8messagesIcE 56 _ZTVSt8messagesIwE 56 _ZTVSt8numpunctIcE 72
  _ZTVSt8numpunctIwE 72 _ZTVSt9bad_alloc 40 _ZTVSt9basic_iosIcSt11char_traitsIcEE 32
  _ZTVSt9basic_iosIwSt11char_traitsIwEE 32 _ZTVSt9exception 40 _ZTVSt9strstream 120
  _ZTVSt9type_info 64")

/-- The functions of the library that resolves the names of hosts. -/
def resolvingFunctions : List String := split "
  __b64_ntop __b64_pton __dn_count_labels __fp_nquery __fp_query __fp_resstat __hostalias
  __loc_aton __loc_ntoa __ns_get16 __ns_get32 __p_cdname __p_cdnname __p_class __p_fqname
  __p_fqnname __p_option __p_query __p_rcode __p_time __p_type __putlong __putshort __res_close
  __res_hostalias __res_isourserver __res_nameinquery __res_queriesmatch __sym_ntop __sym_ntos
  __sym_ston _getlong _getshort inet_net_ntop inet_net_pton inet_neta ns_datetosecs ns_format_ttl
  ns_get16 ns_get32 ns_initparse ns_makecanon ns_msg_getflag ns_name_ntol ns_name_rollback
  ns_parse_ttl ns_parserr ns_put16 ns_put32 ns_samedomain ns_samename ns_skiprr ns_sprintrr
  ns_sprintrrf ns_subdomain"

/-- The marks of versions of the library that resolves the names of hosts. -/
def resolvingMarks : List String := split "
  GLIBC_2.2.5 GLIBC_2.3.2 GLIBC_2.9 GLIBC_PRIVATE"

/-- The data of the library that resolves the names of hosts. -/
def resolvingData : List (String × Nat) := sized (split "
  __p_class_syms 168 __p_type_syms 1104 _res_opcodes 128")

/-- The functions of the library that hashes passwords. -/
def hashingFunctions : List String := split "
  crypt crypt_checksalt crypt_gensalt crypt_gensalt_ra crypt_gensalt_rn crypt_preferred_method
  crypt_r crypt_ra crypt_rn"

/-- The marks of versions of the library that hashes passwords. -/
def hashingMarks : List String := split "
  GLIBC_2.2.5 XCRYPT_2.0 XCRYPT_4.3 XCRYPT_4.4"

/-- The functions of the library that compresses. -/
def compressingFunctions : List String := split "
  adler32 adler32_combine adler32_combine64 adler32_z compress compress2 compressBound crc32
  crc32_combine crc32_combine64 crc32_combine_gen crc32_combine_gen64 crc32_combine_op crc32_z
  deflate deflateBound deflateCopy deflateEnd deflateGetDictionary deflateInit2_ deflateInit_
  deflateParams deflatePending deflatePrime deflateReset deflateResetKeep deflateSetDictionary
  deflateSetHeader deflateTune get_crc_table gzbuffer gzclearerr gzclose gzclose_r gzclose_w
  gzdirect gzdopen gzeof gzerror gzflush gzfread gzfwrite gzgetc gzgetc_ gzgets gzoffset
  gzoffset64 gzopen gzopen64 gzprintf gzputc gzputs gzread gzrewind gzseek gzseek64 gzsetparams
  gztell gztell64 gzungetc gzvprintf gzwrite inflate inflateBack inflateBackEnd inflateBackInit_
  inflateCodesUsed inflateCopy inflateEnd inflateGetDictionary inflateGetHeader inflateInit2_
  inflateInit_ inflateMark inflatePrime inflateReset inflateReset2 inflateResetKeep
  inflateSetDictionary inflateSync inflateSyncPoint inflateUndermine inflateValidate uncompress
  uncompress2 zError zlibCompileFlags zlibVersion"

/-- The marks of versions of the library that compresses. -/
def compressingMarks : List String := split "
  ZLIB_1.2.0 ZLIB_1.2.0.2 ZLIB_1.2.0.8 ZLIB_1.2.2 ZLIB_1.2.2.3 ZLIB_1.2.2.4 ZLIB_1.2.3.3
  ZLIB_1.2.3.4 ZLIB_1.2.3.5 ZLIB_1.2.5.1 ZLIB_1.2.5.2 ZLIB_1.2.7.1 ZLIB_1.2.9"

/-- The functions of the library of indivisible operations. -/
def atomicFunctions : List String := split "
  __atomic_add_fetch_1 __atomic_add_fetch_16 __atomic_add_fetch_2 __atomic_add_fetch_4
  __atomic_add_fetch_8 __atomic_and_fetch_1 __atomic_and_fetch_16 __atomic_and_fetch_2
  __atomic_and_fetch_4 __atomic_and_fetch_8 __atomic_compare_exchange __atomic_compare_exchange_1
  __atomic_compare_exchange_16 __atomic_compare_exchange_2 __atomic_compare_exchange_4
  __atomic_compare_exchange_8 __atomic_exchange __atomic_exchange_1 __atomic_exchange_16
  __atomic_exchange_2 __atomic_exchange_4 __atomic_exchange_8 __atomic_feraiseexcept
  __atomic_fetch_add_1 __atomic_fetch_add_16 __atomic_fetch_add_2 __atomic_fetch_add_4
  __atomic_fetch_add_8 __atomic_fetch_and_1 __atomic_fetch_and_16 __atomic_fetch_and_2
  __atomic_fetch_and_4 __atomic_fetch_and_8 __atomic_fetch_nand_1 __atomic_fetch_nand_16
  __atomic_fetch_nand_2 __atomic_fetch_nand_4 __atomic_fetch_nand_8 __atomic_fetch_or_1
  __atomic_fetch_or_16 __atomic_fetch_or_2 __atomic_fetch_or_4 __atomic_fetch_or_8
  __atomic_fetch_sub_1 __atomic_fetch_sub_16 __atomic_fetch_sub_2 __atomic_fetch_sub_4
  __atomic_fetch_sub_8 __atomic_fetch_xor_1 __atomic_fetch_xor_16 __atomic_fetch_xor_2
  __atomic_fetch_xor_4 __atomic_fetch_xor_8 __atomic_is_lock_free __atomic_load __atomic_load_1
  __atomic_load_16 __atomic_load_2 __atomic_load_4 __atomic_load_8 __atomic_nand_fetch_1
  __atomic_nand_fetch_16 __atomic_nand_fetch_2 __atomic_nand_fetch_4 __atomic_nand_fetch_8
  __atomic_or_fetch_1 __atomic_or_fetch_16 __atomic_or_fetch_2 __atomic_or_fetch_4
  __atomic_or_fetch_8 __atomic_store __atomic_store_1 __atomic_store_16 __atomic_store_2
  __atomic_store_4 __atomic_store_8 __atomic_sub_fetch_1 __atomic_sub_fetch_16
  __atomic_sub_fetch_2 __atomic_sub_fetch_4 __atomic_sub_fetch_8 __atomic_test_and_set_1
  __atomic_test_and_set_16 __atomic_test_and_set_2 __atomic_test_and_set_4
  __atomic_test_and_set_8 __atomic_xor_fetch_1 __atomic_xor_fetch_16 __atomic_xor_fetch_2
  __atomic_xor_fetch_4 __atomic_xor_fetch_8 atomic_flag_clear atomic_flag_clear_explicit
  atomic_flag_test_and_set atomic_flag_test_and_set_explicit atomic_signal_fence
  atomic_thread_fence"

/-- The marks of versions of the library of indivisible operations. -/
def atomicMarks : List String := split "
  LIBATOMIC_1.0 LIBATOMIC_1.1 LIBATOMIC_1.2"

end ModuleForge.Host.LibraryNames
