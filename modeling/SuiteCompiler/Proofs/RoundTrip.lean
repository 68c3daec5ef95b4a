/-
  SuiteCompiler/Proofs/RoundTrip.lean
  ===================================
  Reading back what was written.

  A value is portable if its JSON text tells all of it: no floating-point numbers,
  no whole number too long to be read, no name twice in an object.  The reader takes
  the text of a portable value, wherever it stands before something that ends a
  value, and gives the value (`readsBack`); nested values are written one inside the
  other, so this is shown for all of them together.  Hence whole documents are read
  back (`readDocument_jsonChars`), and so are files that hold a script literal.
-/
import SuiteCompiler.Project.Loading
import SuiteCompiler.Proofs.Encoding
import SuiteCompiler.Proofs.Json
import SuiteCompiler.Proofs.Tokens

namespace SuiteCompiler

/-! ### Portable values -/

namespace Value

mutual

/-- Whether the JSON text of a value tells all of it. -/
def isPortable : Value → Bool
  | .int n => (Number.digits n.natAbs).length ≤ Number.digitLimit
  | .float _ => false
  | .list items => arePortable items
  | .object fields => (fields.map (·.1)).Nodup && arePortableFields fields
  | .null | .bool _ | .text _ => true

/-- Whether all values of a list are portable. -/
def arePortable : List Value → Bool
  | [] => true
  | item :: items => isPortable item && arePortable items

/-- Whether the values of all fields are portable. -/
def arePortableFields : List (String × Value) → Bool
  | [] => true
  | (_, value) :: fields => isPortable value && arePortableFields fields

end

end Value

/-- What a layout adds to a comma and to a colon is white space. -/
structure JsonLayout.IsReadable (layout : JsonLayout) : Prop where
  comma : ∃ spaces, layout.comma = ',' :: spaces ∧ ∀ c ∈ spaces, Json.isSpace c = true
  colon : ∃ spaces, layout.colon = ':' :: spaces ∧ ∀ c ∈ spaces, Json.isSpace c = true

theorem JsonLayout.isReadable_script : script.IsReadable :=
  ⟨⟨[' '], rfl, List.forall_mem_singleton.2 rfl⟩,
    ⟨[' '], rfl, List.forall_mem_singleton.2 rfl⟩⟩

/-! ### Names -/

namespace Fields

theorem set_of_notMem {name : String} (value : Value) {fields : Fields}
    (h : name ∉ fields.map (·.1)) : fields.set name value = fields ++ [(name, value)] := by
  induction fields with
  | nil => rfl
  | cons field fields ih =>
    obtain ⟨n, v⟩ := field
    obtain ⟨hn, hfields⟩ : n ≠ name ∧ name ∉ fields.map (·.1) := by
      simpa [eq_comm] using h
    rw [set, if_neg hn, ih hfields, List.cons_append]

/-- Fields with new names are added in their order. -/
theorem setAll_of_nodup {fields others : Fields} (h : ((fields ++ others).map (·.1)).Nodup) :
    fields.setAll others = fields ++ others := by
  induction others generalizing fields with
  | nil => simp [setAll]
  | cons field others ih =>
    obtain ⟨name, value⟩ := field
    have hname : name ∉ fields.map (·.1) := by
      rw [List.map_append, List.map_cons] at h
      exact fun hmem => (List.nodup_append.1 h).2.2 name hmem name List.mem_cons_self rfl
    have hset : fields.set name value = fields ++ [(name, value)] := set_of_notMem value hname
    have hrest := @ih (fields ++ [(name, value)]) (by simpa using h)
    rw [List.append_assoc, List.singleton_append] at hrest
    rw [← hrest, ← hset]
    rfl

/-- Fields with different names remain as they are. -/
theorem ofPairs_of_nodup {pairs : List (String × Value)} (h : (pairs.map (·.1)).Nodup) :
    ofPairs pairs = pairs :=
  setAll_of_nodup h

end Fields

namespace Json

/-! ### White space -/

theorem skipSpace_cons {c : Char} (hc : isSpace c = false) (rest : List Char) :
    skipSpace (c :: rest) = c :: rest := by
  simp [skipSpace, hc]

theorem skipSpace_append {spaces : List Char} (h : ∀ c ∈ spaces, isSpace c = true)
    (rest : List Char) : skipSpace (spaces ++ rest) = skipSpace rest :=
  List.dropWhile_append_of_pos h

/-- A text begins as values do: with a visible ASCII character that ends no list. -/
def Begins : List Char → Prop
  | [] => False
  | c :: _ => 0x20 < c.toNat ∧ c.toNat < 0x7F ∧ c ≠ ']'

theorem Begins.append {cs : List Char} (h : Begins cs) (rest : List Char) :
    Begins (cs ++ rest) := by
  cases cs with
  | nil => exact h.elim
  | cons c cs => exact h

theorem Begins.skipSpace {cs : List Char} (h : Begins cs) : skipSpace cs = cs := by
  cases cs with
  | nil => exact h.elim
  | cons c cs =>
    refine skipSpace_cons ?_ cs
    cases hs : isSpace c with
    | false => rfl
    | true =>
      simp only [isSpace, Bool.or_eq_true, decide_eq_true_eq] at hs
      rcases hs with ((rfl | rfl) | rfl) | rfl <;> exact absurd h.1 (by decide)

theorem Begins.exists_cons {cs : List Char} (h : Begins cs) :
    ∃ c rest, cs = c :: rest ∧ c ≠ ']' := by
  cases cs with
  | nil => exact h.elim
  | cons c cs => exact ⟨c, cs, rfl, h.2.2⟩

section Layout

variable {layout : JsonLayout}

theorem begins_of_isDigit {c : Char} (h : isDigit c = true) (cs : List Char) :
    Begins (c :: cs) := by
  simp only [isDigit, Bool.and_eq_true, decide_eq_true_eq] at h
  have hlow : 0x30 ≤ c.toNat := h.1
  have hhigh : c.toNat ≤ 0x39 := h.2
  refine ⟨by omega, by omega, ?_⟩
  rintro rfl
  exact absurd h (by decide)

theorem begins_jsonChars (layout : JsonLayout) {v : Value} (h : v.isPortable = true) :
    Begins (v.jsonChars layout) := by
  cases v with
  | null => exact ⟨by decide, by decide, by decide⟩
  | bool b => cases b <;> exact ⟨by decide, by decide, by decide⟩
  | int n =>
    cases n with
    | ofNat n =>
      obtain ⟨c, cs, hdigits, hc⟩ := exists_digits_cons n
      rw [Value.jsonChars, Number.decimal, hdigits]
      exact begins_of_isDigit hc cs
    | negSucc n => exact ⟨by decide, by decide, by decide⟩
  | float x => simp [Value.isPortable] at h
  | text s => exact ⟨by decide, by decide, by decide⟩
  | list items => cases items <;> exact ⟨by decide, by decide, by decide⟩
  | object fields => cases fields <;> exact ⟨by decide, by decide, by decide⟩

/-! ### Values -/

/-- A value is read back wherever it is written. -/
def ReadsBack (layout : JsonLayout) (v : Value) : Prop :=
  ∀ fuel rest, 2 * (v.jsonChars layout).length ≤ fuel → Ends rest →
    readValue fuel (v.jsonChars layout ++ rest) = .ok (v, rest)

/-- Values that are no texts, lists or objects. -/
theorem readsBack_of_readScalar {v : Value} {c : Char} {cs : List Char}
    (hv : v.jsonChars layout = c :: cs) (hc : c ≠ '"' ∧ c ≠ '[' ∧ c ≠ '\x7b')
    (h : ∀ rest, Ends rest → readScalar (v.jsonChars layout ++ rest) = .ok (v, rest)) :
    ReadsBack layout v := by
  intro fuel rest hfuel hrest
  cases fuel with
  | zero => simp [hv] at hfuel
  | succ fuel =>
    have hscalar := h rest hrest
    rw [hv, List.cons_append] at hscalar ⊢
    simp [readValue, hc, hscalar]

theorem readsBack_int {n : Int}
    (hn : (Number.digits n.natAbs).length ≤ Number.digitLimit) : ReadsBack layout (.int n) := by
  have hread : ∀ rest, Ends rest →
      readScalar ((Value.int n).jsonChars layout ++ rest) = .ok (.int n, rest) :=
    fun rest hrest => readScalar_decimal hrest hn
  cases n with
  | ofNat n =>
    obtain ⟨c, cs, hdigits, hc⟩ := exists_digits_cons n
    refine readsBack_of_readScalar hdigits ⟨?_, ?_, ?_⟩ hread
    all_goals
      rintro rfl
      exact absurd hc (by decide)
  | negSucc n => exact readsBack_of_readScalar rfl (by decide) hread

theorem readsBack_text (s : String) : ReadsBack layout (.text s) := by
  intro fuel rest hfuel _
  obtain ⟨cs, htext, hread⟩ := exists_jsonText layout.asciiOnly s rest
  cases fuel with
  | zero => simp [Value.jsonChars, Value.jsonText] at hfuel
  | succ fuel =>
    rw [Value.jsonChars, htext]
    simp [readValue, hread, Except.map]

theorem readItems_last {item : Value} (hitem : ReadsBack layout item) {fuel : Nat}
    (hfuel : 2 * (item.jsonChars layout).length ≤ fuel) (rest : List Char) :
    readItems (fuel + 1) (item.jsonChars layout ++ ']' :: rest) = .ok ([item], rest) := by
  have hread := hitem fuel (']' :: rest) hfuel (.inr (.inl rfl))
  have hclose : skipSpace (']' :: rest) = ']' :: rest := skipSpace_cons (by decide) rest
  rw [readItems, hread]
  simp only [hclose]

theorem readItems_next {item : Value} (hitem : ReadsBack layout item) {fuel : Nat}
    (hfuel : 2 * (item.jsonChars layout).length ≤ fuel) (more : List Char) :
    readItems (fuel + 1) (item.jsonChars layout ++ ',' :: more) =
      (readItems fuel (skipSpace more)).map fun (items, rest) => (item :: items, rest) := by
  have hread := hitem fuel (',' :: more) hfuel (.inl rfl)
  have hcomma : skipSpace (',' :: more) = ',' :: more := skipSpace_cons (by decide) more
  rw [readItems, hread]
  simp only [hcomma]

/-- Items are read up to the bracket after the last one, if each of them is read back. -/
theorem readItems_jsonItems (hlayout : layout.IsReadable) {items : List Value}
    (hitems : ∀ item ∈ items, item.isPortable = true ∧ ReadsBack layout item) {item : Value}
    (hitem : ReadsBack layout item) {fuel : Nat} (rest : List Char)
    (hfuel : 2 * (item.jsonChars layout ++ Value.jsonItems layout items).length < fuel) :
    readItems fuel (item.jsonChars layout ++ (Value.jsonItems layout items ++ ']' :: rest)) =
      .ok (item :: items, rest) := by
  induction items generalizing item fuel with
  | nil =>
    cases fuel with
    | zero => simp at hfuel
    | succ fuel =>
      rw [Value.jsonItems, List.append_nil] at hfuel
      exact readItems_last hitem (by omega) rest
  | cons next items ih =>
    cases fuel with
    | zero => simp at hfuel
    | succ fuel =>
      obtain ⟨hportable, hnext⟩ := hitems next List.mem_cons_self
      obtain ⟨spaces, hcomma, hspaces⟩ := hlayout.comma
      rw [List.length_append, Value.jsonItems, hcomma] at hfuel
      simp only [List.length_append, List.length_cons] at hfuel
      have hrest : readItems fuel (next.jsonChars layout ++
          (Value.jsonItems layout items ++ ']' :: rest)) = .ok (next :: items, rest) :=
        ih (fun item h => hitems item (List.mem_cons_of_mem next h)) hnext
          (by rw [List.length_append]; omega)
      have hbegins := (begins_jsonChars layout hportable).append
        (Value.jsonItems layout items ++ ']' :: rest)
      have hsplit : Value.jsonItems layout (next :: items) ++ ']' :: rest =
          ',' :: (spaces ++ (next.jsonChars layout ++
            (Value.jsonItems layout items ++ ']' :: rest))) := by
        simp [Value.jsonItems, hcomma]
      rw [hsplit, readItems_next hitem (by omega), skipSpace_append hspaces, hbegins.skipSpace,
        hrest]
      rfl

theorem readFields_last (hlayout : layout.IsReadable) (name : String) {value : Value}
    (hportable : value.isPortable = true) (hvalue : ReadsBack layout value) {fuel : Nat}
    (hfuel : 2 * (value.jsonChars layout).length ≤ fuel) (rest : List Char) :
    readFields (fuel + 1) (Value.jsonText layout.asciiOnly name ++ layout.colon ++
        value.jsonChars layout ++ '\x7d' :: rest) = .ok ([(name, value)], rest) := by
  obtain ⟨spaces, hcolon, hspaces⟩ := hlayout.colon
  obtain ⟨cs, htext, hname⟩ := exists_jsonText layout.asciiOnly name
    (layout.colon ++ (value.jsonChars layout ++ '\x7d' :: rest))
  have hbegins := (begins_jsonChars layout hportable).append ('\x7d' :: rest)
  have hread := hvalue fuel ('\x7d' :: rest) hfuel (.inr (.inr rfl))
  have hclose : skipSpace ('\x7d' :: rest) = '\x7d' :: rest := skipSpace_cons (by decide) rest
  rw [List.append_assoc, List.append_assoc, htext, readFields, hname]
  simp only [hcolon, List.cons_append]
  rw [skipSpace_cons (by decide)]
  simp only [skipSpace_append hspaces, hbegins.skipSpace, hread, hclose]

theorem readFields_next (hlayout : layout.IsReadable) (name : String) {value : Value}
    (hportable : value.isPortable = true) (hvalue : ReadsBack layout value) {fuel : Nat}
    (hfuel : 2 * (value.jsonChars layout).length ≤ fuel) (more : List Char) :
    readFields (fuel + 1) (Value.jsonText layout.asciiOnly name ++ layout.colon ++
        value.jsonChars layout ++ ',' :: more) =
      (readFields fuel (skipSpace more)).map fun (fields, rest) =>
        ((name, value) :: fields, rest) := by
  obtain ⟨spaces, hcolon, hspaces⟩ := hlayout.colon
  obtain ⟨cs, htext, hname⟩ := exists_jsonText layout.asciiOnly name
    (layout.colon ++ (value.jsonChars layout ++ ',' :: more))
  have hbegins := (begins_jsonChars layout hportable).append (',' :: more)
  have hread := hvalue fuel (',' :: more) hfuel (.inl rfl)
  have hcomma : skipSpace (',' :: more) = ',' :: more := skipSpace_cons (by decide) more
  rw [List.append_assoc, List.append_assoc, htext, readFields, hname]
  simp only [hcolon, List.cons_append]
  rw [skipSpace_cons (by decide)]
  simp only [skipSpace_append hspaces, hbegins.skipSpace, hread, hcomma]

/-- Fields are read up to the brace after the last one, if the value of each is read back. -/
theorem readFields_jsonFields (hlayout : layout.IsReadable) {fields : List (String × Value)}
    (hfields : ∀ field ∈ fields, field.2.isPortable = true ∧ ReadsBack layout field.2)
    (name : String) {value : Value} (hportable : value.isPortable = true)
    (hvalue : ReadsBack layout value) {fuel : Nat} (rest : List Char)
    (hfuel : 2 * (value.jsonChars layout ++ Value.jsonFields layout fields).length < fuel) :
    readFields fuel (Value.jsonText layout.asciiOnly name ++ layout.colon ++
        value.jsonChars layout ++ (Value.jsonFields layout fields ++ '\x7d' :: rest)) =
      .ok ((name, value) :: fields, rest) := by
  induction fields generalizing name value fuel with
  | nil =>
    cases fuel with
    | zero => simp at hfuel
    | succ fuel =>
      rw [Value.jsonFields, List.append_nil] at hfuel
      exact readFields_last hlayout name hportable hvalue (by omega) rest
  | cons field fields ih =>
    cases fuel with
    | zero => simp at hfuel
    | succ fuel =>
      obtain ⟨next, nextValue⟩ := field
      obtain ⟨hportable', hvalue'⟩ : nextValue.isPortable = true ∧ ReadsBack layout nextValue :=
        hfields (next, nextValue) List.mem_cons_self
      obtain ⟨spaces, hcomma, hspaces⟩ := hlayout.comma
      rw [List.length_append, Value.jsonFields, hcomma] at hfuel
      simp only [List.length_append, List.length_cons] at hfuel
      have hrest : readFields fuel (Value.jsonText layout.asciiOnly next ++ layout.colon ++
          nextValue.jsonChars layout ++ (Value.jsonFields layout fields ++ '\x7d' :: rest)) =
          .ok ((next, nextValue) :: fields, rest) :=
        ih (fun field h => hfields field (List.mem_cons_of_mem _ h)) next hportable' hvalue'
          (by rw [List.length_append]; omega)
      have hquote : Begins (Value.jsonText layout.asciiOnly next ++ layout.colon ++
          nextValue.jsonChars layout ++ (Value.jsonFields layout fields ++ '\x7d' :: rest)) :=
        ⟨by decide, by decide, by decide⟩
      have hsplit : Value.jsonFields layout ((next, nextValue) :: fields) ++ '\x7d' :: rest =
          ',' :: (spaces ++ (Value.jsonText layout.asciiOnly next ++ layout.colon ++
            nextValue.jsonChars layout ++ (Value.jsonFields layout fields ++ '\x7d' :: rest))) := by
        simp [Value.jsonFields, hcomma]
      rw [hsplit, readFields_next hlayout name hportable hvalue (by omega),
        skipSpace_append hspaces, hquote.skipSpace, hrest]
      rfl

theorem readsBack_list (hlayout : layout.IsReadable) {items : List Value}
    (hitems : ∀ item ∈ items, item.isPortable = true ∧ ReadsBack layout item) :
    ReadsBack layout (.list items) := by
  intro fuel rest hfuel _
  cases fuel with
  | zero => cases items <;> simp [Value.jsonChars] at hfuel
  | succ fuel =>
    cases items with
    | nil =>
      rw [Value.jsonChars]
      rfl
    | cons item items =>
      obtain ⟨hportable, hitem⟩ := hitems item List.mem_cons_self
      have hlength : 2 * (item.jsonChars layout ++ Value.jsonItems layout items).length < fuel := by
        simp only [Value.jsonChars, List.length_cons, List.length_append] at hfuel ⊢
        omega
      have hread := readItems_jsonItems hlayout
        (fun item h => hitems item (List.mem_cons_of_mem _ h)) hitem rest hlength
      have hbegins := (begins_jsonChars layout hportable).append
        (Value.jsonItems layout items ++ ']' :: rest)
      have hchars : (Value.list (item :: items)).jsonChars layout ++ rest =
          '[' :: (item.jsonChars layout ++ (Value.jsonItems layout items ++ ']' :: rest)) := by
        simp [Value.jsonChars]
      rw [hchars]
      obtain ⟨c, cs, hcons, hc⟩ := hbegins.exists_cons
      have hspace : skipSpace (c :: cs) = c :: cs := hcons ▸ hbegins.skipSpace
      rw [hcons] at hread ⊢
      simp [readValue, hspace, hc, hread, Except.map]

theorem readsBack_object (hlayout : layout.IsReadable) {fields : List (String × Value)}
    (hnames : (fields.map (·.1)).Nodup)
    (hfields : ∀ field ∈ fields, field.2.isPortable = true ∧ ReadsBack layout field.2) :
    ReadsBack layout (.object fields) := by
  intro fuel rest hfuel _
  cases fuel with
  | zero => cases fields <;> simp [Value.jsonChars] at hfuel
  | succ fuel =>
    cases fields with
    | nil =>
      rw [Value.jsonChars]
      rfl
    | cons field fields =>
      obtain ⟨name, value⟩ := field
      obtain ⟨hportable, hvalue⟩ := hfields _ List.mem_cons_self
      have hlength : 2 * (value.jsonChars layout ++ Value.jsonFields layout fields).length <
          fuel := by
        simp only [Value.jsonChars, List.length_cons, List.length_append] at hfuel ⊢
        omega
      have hread := readFields_jsonFields hlayout
        (fun field h => hfields field (List.mem_cons_of_mem _ h)) name hportable hvalue rest hlength
      have hchars : (Value.object ((name, value) :: fields)).jsonChars layout ++ rest =
          '\x7b' :: (Value.jsonText layout.asciiOnly name ++ layout.colon ++
            value.jsonChars layout ++ (Value.jsonFields layout fields ++ '\x7d' :: rest)) := by
        simp [Value.jsonChars]
      rw [hchars]
      obtain ⟨cs, hcons, -⟩ := exists_jsonText layout.asciiOnly name (layout.colon ++
        (value.jsonChars layout ++ (Value.jsonFields layout fields ++ '\x7d' :: rest)))
      have hspace : skipSpace ('"' :: cs) = '"' :: cs := skipSpace_cons (by decide) cs
      rw [List.append_assoc, List.append_assoc, hcons] at hread ⊢
      simp [readValue, hspace, hread, Except.map, Fields.ofPairs_of_nodup hnames]

mutual

/-- Every portable value is read back. -/
theorem readsBack (h : layout.IsReadable) :
    ∀ v : Value, v.isPortable = true → ReadsBack layout v
  | .null, _ => readsBack_of_readScalar rfl (by decide) fun _ _ => rfl
  | .bool true, _ => readsBack_of_readScalar rfl (by decide) fun _ _ => rfl
  | .bool false, _ => readsBack_of_readScalar rfl (by decide) fun _ _ => rfl
  | .int n, hn => readsBack_int (by simpa [Value.isPortable] using hn)
  | .float _, hx => absurd hx (by simp [Value.isPortable])
  | .text s, _ => readsBack_text s
  | .list items, hitems =>
    readsBack_list h (readsBack_items h items (by simpa [Value.isPortable] using hitems))
  | .object fields, hfields => by
    obtain ⟨hnames, hvalues⟩ :
        (fields.map (·.1)).Nodup ∧ Value.arePortableFields fields = true := by
      simpa [Value.isPortable] using hfields
    exact readsBack_object h hnames (readsBack_fields h fields hvalues)

theorem readsBack_items (h : layout.IsReadable) :
    ∀ items : List Value, Value.arePortable items = true →
      ∀ item ∈ items, item.isPortable = true ∧ ReadsBack layout item
  | [], _ => by simp
  | item :: items, hitems => by
    obtain ⟨hitem, hrest⟩ : item.isPortable = true ∧ Value.arePortable items = true := by
      simpa [Value.arePortable] using hitems
    exact List.forall_mem_cons.2 ⟨⟨hitem, readsBack h item hitem⟩, readsBack_items h items hrest⟩

theorem readsBack_fields (h : layout.IsReadable) :
    ∀ fields : List (String × Value), Value.arePortableFields fields = true →
      ∀ field ∈ fields, field.2.isPortable = true ∧ ReadsBack layout field.2
  | [], _ => by simp
  | (_, value) :: fields, hfields => by
    obtain ⟨hvalue, hrest⟩ : value.isPortable = true ∧ Value.arePortableFields fields = true := by
      simpa [Value.arePortableFields] using hfields
    exact List.forall_mem_cons.2
      ⟨⟨hvalue, readsBack h value hvalue⟩, readsBack_fields h fields hrest⟩

end

/-- A document that was written is read. -/
theorem readDocument_jsonChars (h : layout.IsReadable) {v : Value} (hv : v.isPortable = true) :
    readDocument (v.jsonChars layout) = .ok v := by
  have hbegins := begins_jsonChars layout hv
  have hread := readsBack h v hv (2 * (v.jsonChars layout).length + 1) [] (by omega) trivial
  have hmark : (v.jsonChars layout).head? ≠ some '\ufeff' := by
    obtain ⟨c, cs, hcons, -⟩ := hbegins.exists_cons
    rw [hcons] at hbegins ⊢
    rintro hc
    obtain rfl : c = '\ufeff' := by simpa using hc
    exact absurd hbegins.2.1 (by decide)
  rw [List.append_nil] at hread
  rw [readDocument, if_neg hmark, hbegins.skipSpace, hread]
  rfl

end Layout

end Json

namespace Value

/-- The JSON text of a portable value is read as the value. -/
theorem parse_json {layout : JsonLayout} (h : layout.IsReadable) {v : Value}
    (hv : v.isPortable = true) : parse (v.json layout) = .ok v := by
  rw [parse, json, String.toList_ofList, parseChars, Json.readDocument_jsonChars h hv]

/-- **What is written is read.**  A portable value is written without control characters, its text
is read as the value, and an object is what is loaded from a file that holds its text. -/
theorem script_reads_back {v : Value} (hv : v.isPortable = true) :
    (∀ c ∈ v.script.toList, 0x20 ≤ c.toNat) ∧ parse v.script = .ok v ∧
      ∀ fields, v = .object fields → ∀ (files : Files) (path : String),
        files.read (Path.ofString path) = .ok v.script.toUTF8.toList →
          files.loadObject path = .ok fields := by
  have hcontrol : ∀ c ∈ v.script.toList, 0x20 ≤ c.toNat := by
    intro c hc
    rw [script, json, String.toList_ofList] at hc
    exact (allows_of_mem_jsonChars JsonLayout.isPlain_script v c hc).1
  have hparse : parse v.script = .ok v := parse_json JsonLayout.isReadable_script hv
  refine ⟨hcontrol, hparse, ?_⟩
  rintro fields rfl files path hread
  have hreturn : '\r' ∉ (Value.object fields).script.toList := by
    intro hmem
    exact absurd (hcontrol _ hmem) (by decide)
  rw [parse] at hparse
  rw [Files.loadObject]
  simp only [hread]
  rw [Files.parseObject, Text.decodeUtf8_toUTF8]
  simp only [Text.normalizeNewlines_of_notMem hreturn, hparse]

/-- An object with values of all kinds that are portable. -/
def orders : Value :=
  .object [("title", .text "Größe \"😀\"\n\\"), ("count", .int (-120)),
    ("items", .list [.null, .bool true, .list [], .object [("title", .text "")]])]

theorem orders_read_back :
    orders.isPortable = true ∧ parse orders.script = .ok orders ∧
      ∃ files : Files, files.read (Path.ofString "orders.json") =
          .ok orders.script.toUTF8.toList ∧
        files.loadObject "orders.json" = .ok [("title", .text "Größe \"😀\"\n\\"),
          ("count", .int (-120)),
          ("items", .list [.null, .bool true, .list [], .object [("title", .text "")]])] := by
  have hportable : orders.isPortable = true := by decide
  have hread : (⟨[(Path.ofString "orders.json", orders.script.toUTF8.toList)], []⟩ : Files).read
      (Path.ofString "orders.json") = .ok orders.script.toUTF8.toList := by
    rfl
  obtain ⟨-, hparse, hload⟩ := script_reads_back hportable
  exact ⟨hportable, hparse, _, hread, hload _ rfl _ _ hread⟩

end Value

end SuiteCompiler
