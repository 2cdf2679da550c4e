import ModuleForge.Json.Shape
import ModuleForge.Proofs.Json.Literals

/-!
# Reading what was written

A reader takes the tokens of a value as that value whatever ends it (`Reads`). Shapes do: strings,
numbers of 64 bits, what may be `null`, lists of strings, and records (`reads_record`). A record may
have its members in any order and flat members that it does not know between them; every member that
it knows changes it, in the order of the text.
-/
namespace ModuleForge.Json

/-- The tokens behind a value: a mark comes first, if anything does. -/
def Ends (more : List Token) : Prop := ∀ t ∈ more.head?, t = [44] ∨ t = [93] ∨ t = [125]

/-- A reader takes these tokens as the value `a`. -/
def Reads (r : Reader α) (ts : List Token) (a : α) : Prop :=
  ∀ (c : Cursor) (more : List Token), Laid (ts ++ more) c.rest → Ends more →
    ∃ c', r c = .ok (a, c') ∧ Laid more c'.rest

theorem ends_nil : Ends [] := nofun

theorem ends_cons {t : Token} (h : t = [44] ∨ t = [93] ∨ t = [125]) (more : List Token) :
    Ends (t :: more) := by
  rintro _ ⟨⟩
  exact h

/-- A number may stand before what ends a value. -/
theorem Laid.stops {more : List Token} {rest : ByteString} (h : Laid more rest) (ends : Ends more) :
    Stops rest := by
  intro b hb
  cases more with
  | nil => exact .inl (h b (List.mem_of_head? hb))
  | cons t more =>
    obtain ⟨w, rest, hw, rfl, -⟩ := h
    cases w with
    | cons x w =>
      cases hb
      exact .inl (hw b (by simp))
    | nil =>
      obtain rfl | rfl | rfl := ends t rfl <;> cases hb <;> simp

/-- A cursor at a token that starts with no blank. -/
theorem skipSpaces_cons {c : Cursor} {b : UInt8} {t : Token} {ts : List Token}
    (h : Laid ((b :: t) :: ts) c.rest)
    (hb : isSpace b = false) : ∃ rest, (skipSpaces c).rest = b :: (t ++ rest) ∧ Laid ts rest ∧
      (skipSpaces c).atEnd = false ∧ (skipSpaces c).peek = Char.ofNat b.toNat ∧
      Laid ((b :: t) :: ts) (skipSpaces c).rest := by
  obtain ⟨rest, hrest, hmore⟩ := skipSpaces_laid h hb
  exact ⟨rest, hrest, hmore, Cursor.atEnd_cons hrest, Cursor.peek_cons hrest, [], rest, nofun,
    hrest, hmore⟩

/-- Past a token of one byte. -/
theorem skipSpaces_mark {c : Cursor} {b : UInt8} {ts : List Token} (h : Laid ([b] :: ts) c.rest)
    (hb : isSpace b = false) : (skipSpaces c).atEnd = false ∧
    (skipSpaces c).peek = Char.ofNat b.toNat ∧
      Laid ts (skipSpaces c).advance.rest := by
  obtain ⟨rest, hrest, hmore, hend, hpeek, -⟩ := skipSpaces_cons h hb
  exact ⟨hend, hpeek, by rw [Cursor.rest_advance, hrest]; exact hmore⟩

/-- At a written string. -/
theorem skipSpaces_string {c : Cursor} {s : String} {ts : List Token}
    (h : Laid (ByteString.ofText (writeString s) :: ts) c.rest) :
    ∃ rest, (skipSpaces c).rest = 34 :: (inside s ++ 34 :: rest) ∧ Laid ts rest ∧
      (skipSpaces c).atEnd = false ∧ (skipSpaces c).peek = '"' ∧
      Laid (ByteString.ofText (writeString s) :: ts) (skipSpaces c).rest := by
  rw [ofText_writeString] at h ⊢
  obtain ⟨rest, hrest, hmore, hend, hpeek, hlaid⟩ := skipSpaces_cons h (by decide)
  exact ⟨rest, by rw [hrest, List.append_assoc, List.singleton_append], hmore, hend, hpeek, hlaid⟩

/-! ## Scalars -/

theorem reads_string (expected : String) (s : String) :
    Reads (Shape.string expected).read (tokens (.string s)) s := by
  intro c more h _
  obtain ⟨rest, hrest, hmore, hend, hpeek, -⟩ := skipSpaces_string h
  have hinside : (skipSpaces c).advance.rest = inside s ++ 34 :: rest := by
    rw [Cursor.rest_advance, hrest, List.tail_cons]
  obtain ⟨c', hread, hrest'⟩ := readString_written hinside
  refine ⟨c', ?_, hrest' ▸ hmore⟩
  simp only [Shape.string, hend, hpeek]
  exact hread

theorem Reads.map {s : Shape α} {ts : List Token} {a : α} (h : Reads s.read ts a) (f : α → β) :
    Reads (s.map f).read ts (f a) := by
  intro c more hlaid ends
  obtain ⟨c', hread, hmore⟩ := h c more hlaid ends
  refine ⟨c', ?_, hmore⟩
  simp only [Shape.map, hread]
  rfl

/-- At a written number: its first digit comes next, and behind its last one the number stops. -/
theorem skipSpaces_number {n : Nat} {c : Cursor} {ts : List Token}
    (h : Laid (digitBytes n :: ts) c.rest)
    (ends : Ends ts) : ∃ b rest, (skipSpaces c).rest = digitBytes n ++ rest ∧ Laid ts rest ∧
      Stops rest ∧
      (skipSpaces c).atEnd = false ∧ (skipSpaces c).peek = Char.ofNat b ∧ 48 ≤ b ∧ b ≤ 57 := by
  obtain ⟨b, front, hdigits, -⟩ := head_digitBytes n
  have hb : b ∈ digitBytes n := by simp [hdigits]
  obtain ⟨ch, hch, rfl⟩ := List.mem_map.mp hb
  obtain ⟨hlow, hhigh, hbyte⟩ := digit_of_mem_toDigits hch
  have hblank : isSpace (UInt8.ofNat ch.toNat) = false := by
    simp only [isSpace, Bool.or_eq_false_iff, beq_eq_false_iff_ne, ne_eq, ← UInt8.toNat_inj, hbyte]
    refine ⟨⟨⟨?_, ?_⟩, ?_⟩, ?_⟩ <;> (intro heq; simp at heq; omega)
  rw [hdigits] at h
  obtain ⟨rest, hrest, hmore, hend, hpeek, -⟩ := skipSpaces_cons h hblank
  exact ⟨ch.toNat, rest, by rw [hrest, hdigits, List.cons_append], hmore, hmore.stops ends, hend,
    by rw [hpeek, hbyte], hlow, hhigh⟩

theorem isDigit_ofNat {n : Nat} (hlow : 48 ≤ n) (hhigh : n ≤ 57) :
    (Char.ofNat n).isDigit = true ∧ (Char.ofNat n == '-') = false := by
  obtain ⟨d, hd, rfl⟩ : ∃ d, d < 10 ∧ n = 48 + d := ⟨n - 48, by omega, by omega⟩
  clear hlow hhigh
  revert d
  decide

theorem reads_natural {n : Nat} (hn : n < 2 ^ 64) :
    Reads Shape.natural.read (tokens (.number (.whole n))) n := by
  intro c more h ends
  have htoken : ByteString.ofText (Number.whole n).write = digitBytes n := ofText_toString n
  rw [tokens, htoken] at h
  obtain ⟨b, rest, hrest, hmore, stops, hend, hpeek, hlow, hhigh⟩ := skipSpaces_number h ends
  obtain ⟨hdigit, hminus⟩ := isDigit_ofNat hlow hhigh
  obtain ⟨c', hread, hrest'⟩ := readNumber_written hn hrest stops
  refine ⟨c', ?_, hrest' ▸ hmore⟩
  have hnatural : Shape.toNatural (.whole n) = .ok n := by simp [Shape.toNatural]
  simp only [Shape.natural, hend, hpeek, hdigit, hminus, Bool.false_eq_true, if_false, Bool.or_true,
    if_true, hread, bind, Except.bind, hnatural]
  rfl

/-- At a literal name. -/
theorem readIdent_token {b : UInt8} {t : Token} {c : Cursor} {ts : List Token}
    (h : Laid ((b :: t) :: ts) c.rest)
    (hb : isSpace b = false) : (skipSpaces c).atEnd = false ∧
    (skipSpaces c).peek = Char.ofNat b.toNat ∧
      ∃ c', readIdent t (skipSpaces c).advance = .ok c' ∧ Laid ts c'.rest := by
  obtain ⟨rest, hrest, hmore, hend, hpeek, -⟩ := skipSpaces_cons h hb
  have hletters : (skipSpaces c).advance.rest = t ++ rest := by
    rw [Cursor.rest_advance, hrest, List.tail_cons]
  obtain ⟨c', hread, hrest'⟩ := readIdent_append hletters
  exact ⟨hend, hpeek, c', hread, hrest' ▸ hmore⟩

theorem reads_null (s : Shape α) : Reads (Shape.optional s).read (tokens .null) none := by
  intro c more h _
  obtain ⟨-, hpeek, c', hread, hmore⟩ := readIdent_token (b := 110) (t := "ull") h (by decide)
  refine ⟨c', ?_, hmore⟩
  have hn : Char.ofNat (110 : UInt8).toNat = 'n' := by decide
  simp only [Shape.optional, hpeek, hn, beq_self_eq_true, if_true, hread]
  rfl

theorem Reads.optional {s : Shape α} {text : String} {a : α}
    (h : Reads s.read (tokens (.string text)) a) :
    Reads (Shape.optional s).read (tokens (.string text)) (some a) := by
  intro c more hlaid ends
  obtain ⟨-, -, -, -, hpeek, hagain⟩ := skipSpaces_string hlaid
  obtain ⟨c', hread, hmore⟩ := h (skipSpaces c) more hagain ends
  refine ⟨c', ?_, hmore⟩
  have hn : ('"' == 'n') = false := by decide
  simp only [Shape.optional, hpeek, hn, Bool.false_eq_true, if_false, hread]
  rfl

/-! ## Lists -/

theorem itemTokens_eq_map (js : List Json) : itemTokens js = js.map tokens := by
  induction js with
  | nil => rfl
  | cons j js ih => rw [itemTokens, ih, List.map_cons]

/-- Rows of tokens, each behind a comma. -/
def trailing (rows : List (List Token)) : List Token := rows.flatMap (comma :: ·)

theorem intercalate_comma (row : List Token) (rows : List (List Token)) :
    [comma].intercalate (row :: rows) = row ++ trailing rows := by
  induction rows generalizing row with
  | nil => simp [trailing]
  | cons next rows ih =>
    rw [List.intercalate_cons_cons, ih next]
    simp [trailing]

/-- There are fewer rows than bytes. -/
theorem Laid.rows_lt {front more : List Token} {rows : List (List Token)} {b : UInt8}
    {text : ByteString}
    (h : Laid (front ++ (trailing rows ++ [b] :: more)) text) : rows.length < text.length := by
  have hrows : rows.length ≤ (trailing rows).flatten.length := by
    clear h
    induction rows with
    | nil => exact Nat.zero_le _
    | cons row rows ih =>
      have hcomma : comma.length = 1 := by decide
      simp only [trailing, List.flatMap_cons, List.cons_append, List.flatten_cons,
        List.flatten_append, List.length_append, hcomma, List.length_cons] at ih ⊢
      omega
  have hall := h.flatten_length_le
  simp only [List.flatten_append, List.flatten_cons, List.length_append, List.length_cons] at hall
  omega

theorem ends_trailing (rows : List (List Token)) {t : Token} (h : t = [93] ∨ t = [125])
    (more : List Token) :
    Ends (trailing rows ++ t :: more) := by
  cases rows with
  | nil => exact ends_cons (.inr h) more
  | cons row rows => exact ends_cons (.inl rfl) _

/-- At a comma and then a written string, which is an item or a key. -/
theorem skipSpaces_comma {c : Cursor} {s : String} {ts : List Token}
    (h : Laid (comma :: ByteString.ofText (writeString s) :: ts) c.rest) :
    (skipSpaces c).atEnd = false ∧ (skipSpaces c).peek = ',' ∧
      ∃ rest, (skipSpaces (skipSpaces c).advance).rest = 34 :: (inside s ++ 34 :: rest) ∧
        Laid ts rest ∧
        (skipSpaces (skipSpaces c).advance).atEnd = false ∧
        (skipSpaces (skipSpaces c).advance).peek = '"' ∧
        Laid (ByteString.ofText (writeString s) :: ts)
          (skipSpaces (skipSpaces c).advance).rest := by
  obtain ⟨hend, hpeek, hlaid⟩ := skipSpaces_mark (b := 44) h (by decide)
  exact ⟨hend, hpeek, skipSpaces_string hlaid⟩

/-- One more item, and then the others. -/
theorem readItems_cons {s : Shape α} {first : Bool} {c c₁ c₂ c₃ : Cursor} {a : α} {as : List α}
    {fuel : Nat}
    (hnext : Shape.nextItem first c = .ok (some c₁)) (hread : s.read c₁ = .ok (a, c₂))
    (hrest : Shape.readItems s false c₂ fuel = .ok (as, c₃)) :
    Shape.readItems s first c (fuel + 1) = .ok (a :: as, c₃) := by
  simp only [Shape.readItems, hnext]
  show (s.read c₁ >>= fun x => Shape.readItems s false x.2 fuel >>= fun y => .ok (x.1 :: y.1, y.2))
    = _
  rw [hread]
  show (Shape.readItems s false c₂ fuel >>= fun y => .ok (a :: y.1, y.2)) = _
  rw [hrest]
  rfl

theorem readItems_nil {s : Shape α} {first : Bool} {c : Cursor} {more : List Token} {fuel : Nat}
    (h : Laid ([93] :: more) c.rest) :
    ∃ c', Shape.readItems s first c (fuel + 1) = .ok ([], c') ∧ Laid more c'.rest := by
  obtain ⟨hend, hpeek, hmore⟩ := skipSpaces_mark h (by decide)
  refine ⟨_, ?_, hmore⟩
  have hbracket : Char.ofNat (93 : UInt8).toNat = ']' := by decide
  simp only [Shape.readItems, Shape.nextItem, Shape.endList, hend, hpeek, hbracket]
  rfl

section Lists

variable {s : Shape α} {f : String → α} (hitem : ∀ t, Reads s.read (tokens (.string t)) (f t))
include hitem

/-- Items behind the first are read up to the end of the list. -/
theorem readItems_trailing (ss : List String) {c : Cursor} {more : List Token}
    (h : Laid (trailing (itemTokens (ss.map .string)) ++ ([93] :: more)) c.rest) {fuel : Nat}
    (hfuel : ss.length < fuel) :
    ∃ c', Shape.readItems s false c fuel = .ok (ss.map f, c') ∧ Laid more c'.rest := by
  obtain ⟨fuel, rfl⟩ := Nat.exists_eq_add_one.mpr (Nat.zero_lt_of_lt hfuel)
  induction ss generalizing c fuel with
  | nil => exact readItems_nil h
  | cons t ss ih =>
    obtain ⟨hend, hpeek, -, -, -, hend', hpeek', hlaid⟩ := skipSpaces_comma h
    obtain ⟨d, hread, hmore⟩ := hitem t _ _ hlaid (ends_trailing _ (.inl rfl) more)
    obtain ⟨fuel, rfl⟩ :=
      Nat.exists_eq_add_one.mpr (Nat.zero_lt_of_lt (Nat.lt_of_succ_lt_succ hfuel))
    obtain ⟨c', hrest, hmore'⟩ := ih hmore fuel (Nat.lt_of_succ_lt_succ hfuel)
    have hnext : Shape.nextItem false c = .ok (some (skipSpaces (skipSpaces c).advance)) := by
      simp only [Shape.nextItem, hend, hpeek, hend', hpeek']
      rfl
    exact ⟨c', readItems_cons hnext hread hrest, hmore'⟩

theorem reads_list (ss : List String) :
    Reads (Shape.list s).read (tokens (.array (ss.map .string))) (ss.map f) := by
  intro c more h ends
  rw [tokens, List.cons_append, List.append_assoc] at h
  obtain ⟨hend, hpeek, hlaid⟩ := skipSpaces_mark (b := 91) h (by decide)
  have hbracket : Char.ofNat (91 : UInt8).toNat = '[' := by decide
  have hlist : (Shape.list s).read c
      = Shape.readItems s true (skipSpaces c).advance ((skipSpaces c).rest.length + 1) := by
    simp only [Shape.list, hend, hpeek, hbracket]
    rfl
  rw [hlist]
  cases ss with
  | nil => exact readItems_nil hlaid
  | cons t ss =>
    rw [List.map_cons, itemTokens, intercalate_comma, List.append_assoc] at hlaid
    obtain ⟨-, -, -, hend, hpeek, hlaid'⟩ := skipSpaces_string hlaid
    obtain ⟨d, hread, hmore⟩ := hitem t _ _ hlaid' (ends_trailing _ (.inl rfl) more)
    have hfuel : ss.length < (skipSpaces c).rest.length := by
      have hrows := hlaid.rows_lt
      rw [Cursor.rest_advance, List.length_tail, itemTokens_eq_map, List.length_map,
        List.length_map] at hrows
      omega
    obtain ⟨c', hrest, hmore'⟩ := readItems_trailing hitem ss hmore hfuel
    have hnext : Shape.nextItem true (skipSpaces c).advance
        = .ok (some (skipSpaces (skipSpaces c).advance)) := by
      simp only [Shape.nextItem, hend, hpeek]
      rfl
    exact ⟨c', readItems_cons hnext hread hrest, hmore'⟩

end Lists

/-! ## Values that nobody asks for -/

/-- A value without parts: `null`, a truth value, a whole number or a string. -/
def Flat : Json → Prop
  | null | bool _ | number (.whole _) | string _ => True
  | _ => False

theorem skipScalar_number {n : Nat} {c : Cursor} {ts : List Token}
    (h : Laid (digitBytes n :: ts) c.rest)
    (ends : Ends ts) : (skipSpaces c).atEnd = false ∧
      ∃ c', skipScalar (skipSpaces c) = .ok (some c') ∧ Laid ts c'.rest := by
  obtain ⟨b, rest, hrest, hmore, stops, hend, hpeek, hlow, hhigh⟩ := skipSpaces_number h ends
  obtain ⟨hdigit, -⟩ := isDigit_ofNat hlow hhigh
  rw [← hpeek] at hdigit
  have hother : skipScalar (skipSpaces c) = some <$> skipNumber (skipSpaces c) := by
    -- a digit is none of the characters that start other values
    unfold skipScalar
    split
    case h_8 => rw [if_pos hdigit]
    all_goals simp_all
  obtain ⟨c', hskip, hrest'⟩ := skipNumber_written hrest stops
  exact ⟨hend, c', by rw [hother, hskip]; rfl, hrest' ▸ hmore⟩

theorem skipScalar_flat {j : Json} (flat : Flat j) {c : Cursor} {more : List Token}
    (h : Laid (tokens j ++ more) c.rest) (ends : Ends more) :
    (skipSpaces c).atEnd = false ∧ ∃ c', skipScalar (skipSpaces c) = .ok (some c') ∧
      Laid more c'.rest := by
  have hname {b : UInt8} {t : Token} {x : Char} (hb : isSpace b = false)
      (hx : Char.ofNat b.toNat = x)
      (hscalar : ∀ d : Cursor, d.peek = x → skipScalar d = some <$> readIdent t d.advance)
      (h : Laid ((b :: t) :: more) c.rest) :
      (skipSpaces c).atEnd = false ∧ ∃ c', skipScalar (skipSpaces c) = .ok (some c') ∧
        Laid more c'.rest := by
    obtain ⟨hend, hpeek, c', hread, hmore⟩ := readIdent_token h hb
    exact ⟨hend, c', by rw [hscalar _ (hpeek.trans hx), hread]; rfl, hmore⟩
  match j, flat with
  | .null, _ =>
    exact hname (b := 110) (t := "ull") (x := 'n') (by decide) (by decide)
      (fun d hd => by rw [skipScalar, hd]; rfl) h
  | .bool true, _ =>
    exact hname (b := 116) (t := "rue") (x := 't') (by decide) (by decide)
      (fun d hd => by rw [skipScalar, hd]; rfl) h
  | .bool false, _ =>
    exact hname (b := 102) (t := "alse") (x := 'f') (by decide) (by decide)
      (fun d hd => by rw [skipScalar, hd]; rfl) h
  | .number (.whole (.ofNat n)), _ =>
    refine skipScalar_number (n := n) ?_ ends
    rw [← ofText_toString]
    exact h
  | .number (.whole (.negSucc n)), _ =>
    have htoken : ByteString.ofText (Number.whole (.negSucc n)).write = 45
        :: digitBytes (n + 1) := by
      rw [← ofText_toString]
      exact ByteString.ofText_append "-" (toString (n + 1))
    rw [tokens, htoken] at h
    obtain ⟨rest, hrest, hmore, hend, hpeek, -⟩ := skipSpaces_cons h (by decide)
    have hdigits : (skipSpaces c).advance.rest = digitBytes (n + 1) ++ rest := by
      rw [Cursor.rest_advance, hrest, List.tail_cons]
    obtain ⟨c', hskip, hrest'⟩ := skipNumber_written hdigits (hmore.stops ends)
    have hminus : (skipSpaces c).peek = '-' := hpeek.trans (by decide)
    exact ⟨hend, c', by rw [skipScalar, hminus]; simp only [hskip]; rfl, hrest' ▸ hmore⟩
  | .string s, _ =>
    obtain ⟨rest, hrest, hmore, hend, hpeek, -⟩ := skipSpaces_string h
    have hinside : (skipSpaces c).advance.rest = inside s ++ 34 :: rest := by
      rw [Cursor.rest_advance, hrest, List.tail_cons]
    have hfuel : (skipSpaces c).advance.rest.length < (skipSpaces c).rest.length + 1 := by
      rw [Cursor.rest_advance, List.length_tail]
      omega
    obtain ⟨c', hskip, hrest'⟩ := skipString_written hinside hfuel
    exact ⟨hend, c', by rw [skipScalar, hpeek]; simp only [hskip]; rfl, hrest' ▸ hmore⟩

/-- Flat values are passed over. -/
theorem skipValue_flat {j : Json} (flat : Flat j) {c : Cursor} {more : List Token}
    (h : Laid (tokens j ++ more) c.rest) (ends : Ends more) :
    ∃ c', skipValue c = .ok c' ∧ Laid more c'.rest := by
  obtain ⟨hend, c', hskip, hmore⟩ := skipScalar_flat flat h ends
  refine ⟨c', ?_, hmore⟩
  simp only [skipValue, skipValueIn, hend, hskip]
  rfl

/-! ## Records -/

/-- The record has no field of this name. -/
def Unknown (fields : List (Field ρ)) (key : String) : Prop := fields.find? (·.name == key) = none

/-- What a member does to a record: one that is not known does nothing, and is flat; the value of
one that is known is read as a change. -/
def Suits (fields : List (Field ρ)) (m : String × Json) (change : ρ → ρ) : Prop :=
  match fields.find? (·.name == m.1) with
  | none => Flat m.2 ∧ change = id
  | some f => Reads f.shape.read (tokens m.2) change

/-- No field is named twice. -/
def Distinct (fields : List (Field ρ)) (ms : List (String × Json)) : Prop :=
  ms.Pairwise fun m n => m.1 = n.1 → Unknown fields m.1

theorem length_memberTokens (ms : List (String × Json)) : (memberTokens ms).length = ms.length := by
  induction ms with
  | nil => rfl
  | cons m ms ih => rw [memberTokens, List.length_cons, List.length_cons, ih]

theorem trailing_memberTokens (m : String × Json) (ms : List (String × Json)) (more : List Token) :
    trailing (memberTokens (m :: ms)) ++ more =
      comma :: ByteString.ofText (writeString m.1) :: [58] ::
      (tokens m.2 ++ (trailing (memberTokens ms) ++ more)) := by
  rw [← List.append_assoc (tokens m.2)]
  rfl

theorem readColon_laid {c : Cursor} {ts : List Token} (h : Laid ([58] :: ts) c.rest) :
    ∃ c', Shape.readColon c = .ok c' ∧ Laid ts c'.rest := by
  obtain ⟨hend, hpeek, hmore⟩ := skipSpaces_mark h (by decide)
  refine ⟨_, ?_, hmore⟩
  have hcolon : Char.ofNat (58 : UInt8).toNat = ':' := by decide
  simp only [Shape.readColon, hend, hpeek, hcolon]
  rfl

section Records

variable {fields : List (Field ρ)}

/-- One member makes its change, and the reading goes on with the others. -/
theorem readMembers_cons {m : String × Json} {change : ρ → ρ} (suits : Suits fields m change)
    {seen : List String}
    (fresh : m.1 ∈ seen → Unknown fields m.1) {first : Bool} {c d : Cursor}
    (hnext : Shape.nextKey first c = .ok (some d)) {rest : ByteString}
    (hd : d.rest = 34 :: (inside m.1 ++ 34 :: rest)) {more : List Token}
    (hlaid : Laid ([58] :: (tokens m.2 ++ more)) rest) (ends : Ends more) (r : ρ) (fuel : Nat) :
    ∃ c' seen', Shape.readMembers fields first seen r c (fuel + 1)
        = Shape.readMembers fields false seen' (change r) c' fuel ∧
      Laid more c'.rest ∧ ∀ key ∈ seen', key = m.1 ∨ key ∈ seen := by
  have hinside : d.advance.rest = inside m.1 ++ 34 :: rest := by
    rw [Cursor.rest_advance, hd, List.tail_cons]
  obtain ⟨k, hkey, hk⟩ := readString_written hinside
  obtain ⟨v, hcolon, hv⟩ := readColon_laid (c := k) (hk ▸ hlaid)
  unfold Suits at suits
  unfold Unknown at fresh
  cases hfind : fields.find? (·.name == m.1) with
  | none =>
    rw [hfind] at suits
    obtain ⟨flat, rfl⟩ := suits
    obtain ⟨c', hskip, hmore⟩ := skipValue_flat flat hv ends
    refine ⟨c', seen, ?_, hmore, fun key h => .inr h⟩
    simp only [Shape.readMembers, hnext, hkey, hfind, hcolon, hskip, bind, Except.bind, id]
  | some f =>
    rw [hfind] at suits fresh
    obtain ⟨c', hvalue, hmore⟩ := suits v more hv ends
    have hseen : seen.contains m.1 = false := by
      rw [List.contains_eq_mem, decide_eq_false_iff_not]
      exact fun h => by cases fresh h
    refine ⟨c', m.1 :: seen, ?_, hmore, fun key h => List.mem_cons.mp h⟩
    simp only [Shape.readMembers, hnext, hkey, hfind, hseen, Bool.false_eq_true, if_false, hcolon,
      hvalue, bind, Except.bind]

theorem readMembers_nil {first : Bool} {seen : List String} {c : Cursor} {more : List Token}
    (h : Laid ([125] :: more) c.rest) (r : ρ) (fuel : Nat) :
    ∃ c', Shape.readMembers fields first seen r c (fuel + 1) = .ok (r, c') ∧ Laid more c'.rest := by
  obtain ⟨hend, hpeek, hmore⟩ := skipSpaces_mark h (by decide)
  refine ⟨_, ?_, hmore⟩
  have hbrace : Char.ofNat (125 : UInt8).toNat = '\x7d' := by decide
  simp only [Shape.readMembers, Shape.nextKey, hend, hpeek, hbrace]
  rfl

variable {change : String × Json → ρ → ρ}

/-- Members behind the first are read up to the end of the object. -/
theorem readMembers_trailing {ms : List (String × Json)}
    (suits : ∀ m ∈ ms, Suits fields m (change m))
    (distinct : Distinct fields ms) {seen : List String}
    (fresh : ∀ m ∈ ms, m.1 ∈ seen → Unknown fields m.1)
    {c : Cursor} {more : List Token}
    (h : Laid (trailing (memberTokens ms) ++ ([125] :: more)) c.rest) (r : ρ)
    {fuel : Nat} (hfuel : ms.length < fuel) :
    ∃ c', Shape.readMembers fields false seen r c fuel = .ok
      (ms.foldl (fun r m => change m r) r, c') ∧
      Laid more c'.rest := by
  obtain ⟨fuel, rfl⟩ := Nat.exists_eq_add_one.mpr (Nat.zero_lt_of_lt hfuel)
  induction ms generalizing c r seen fuel with
  | nil => exact readMembers_nil h r fuel
  | cons m ms ih =>
    obtain ⟨hhead, hdistinct⟩ := List.pairwise_cons.mp distinct
    rw [trailing_memberTokens] at h
    obtain ⟨hend, hpeek, rest, hrest, hlaid, hend', hpeek', -⟩ := skipSpaces_comma h
    have hnext : Shape.nextKey false c = .ok (some (skipSpaces (skipSpaces c).advance)) := by
      simp only [Shape.nextKey, hend, hpeek, hend', hpeek']
      rfl
    obtain ⟨d, seen', hstep, hmore, hseen⟩ :=
      readMembers_cons (suits m (by simp)) (fresh m (by simp)) hnext hrest
      hlaid (ends_trailing _ (.inr rfl) more) r fuel
    obtain ⟨fuel, rfl⟩ :=
      Nat.exists_eq_add_one.mpr (Nat.zero_lt_of_lt (Nat.lt_of_succ_lt_succ hfuel))
    have fresh' : ∀ n ∈ ms, n.1 ∈ seen' → Unknown fields n.1 := by
      intro n hn hmem
      rcases hseen _ hmem with heq | hmem
      · rw [heq]
        exact hhead n hn heq.symm
      · exact fresh n (by simp [hn]) hmem
    obtain ⟨c', hread, hmore'⟩ :=
      ih (fun n hn => suits n (by simp [hn])) hdistinct fresh' hmore (change m r) fuel
      (Nat.lt_of_succ_lt_succ hfuel)
    exact ⟨c', hstep.trans hread, hmore'⟩

/-- A record is read from its members in their order. -/
theorem reads_record (expected : String) (start : ρ) {ms : List (String × Json)}
    (suits : ∀ m ∈ ms, Suits fields m (change m)) (distinct : Distinct fields ms) :
    Reads (Shape.record expected start fields).read (tokens (.object ms))
      (ms.foldl (fun r m => change m r) start) := by
  intro c more h ends
  rw [tokens, List.cons_append, List.append_assoc] at h
  obtain ⟨hend, hpeek, hlaid⟩ := skipSpaces_mark (b := 123) h (by decide)
  have hbrace : Char.ofNat (123 : UInt8).toNat = '\x7b' := by decide
  have hrecord : (Shape.record expected start fields).read c
      = Shape.readMembers fields true [] start (skipSpaces c).advance
        ((skipSpaces c).rest.length + 1) := by
    simp only [Shape.record, hend, hpeek, hbrace]
    rfl
  rw [hrecord]
  cases ms with
  | nil => exact readMembers_nil hlaid start _
  | cons m ms =>
    obtain ⟨hhead, hdistinct⟩ := List.pairwise_cons.mp distinct
    rw [memberTokens, intercalate_comma, List.append_assoc] at hlaid
    have hfuel : ms.length < (skipSpaces c).rest.length := by
      have hrows := hlaid.rows_lt
      rw [Cursor.rest_advance, List.length_tail, length_memberTokens] at hrows
      omega
    obtain ⟨rest, hrest, hlaid', hend, hpeek, -⟩ := skipSpaces_string hlaid
    have hnext : Shape.nextKey true (skipSpaces c).advance
        = .ok (some (skipSpaces (skipSpaces c).advance)) := by
      simp only [Shape.nextKey, hend, hpeek]
      rfl
    have unseen : m.1 ∈ ([] : List String) → Unknown fields m.1 := nofun
    obtain ⟨d, seen, hstep, hmore, hseen⟩ :=
      readMembers_cons (suits m (by simp)) unseen hnext hrest hlaid'
      (ends_trailing _ (.inr rfl) more) start _
    have fresh : ∀ n ∈ ms, n.1 ∈ seen → Unknown fields n.1 := by
      intro n hn hmem
      rcases hseen _ hmem with heq | hmem
      · rw [heq]
        exact hhead n hn heq.symm
      · cases hmem
    obtain ⟨c', hread, hmore'⟩ :=
      readMembers_trailing (fun n hn => suits n (by simp [hn])) hdistinct fresh hmore
      (change m start) hfuel
    exact ⟨c', hstep.trans hread, hmore'⟩

end Records

/-! ## Whole texts -/

/-- A text of nothing but the tokens of a value is that value. -/
theorem Reads.parse {s : Shape α} {ts : List Token} {a : α} (h : Reads s.read ts a) {text : String}
    (laid : Laid ts (ByteString.ofText text)) : s.parse text = .ok a := by
  obtain ⟨c', hread, hrest⟩ := h (.ofText text) [] (by rwa [List.append_nil]) ends_nil
  rw [Shape.parse, hread]
  show (if (skipSpaces c').atEnd then _ else _) = _
  rw [skipSpaces_end hrest]
  rfl

end ModuleForge.Json
