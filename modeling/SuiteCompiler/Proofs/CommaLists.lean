/-
  SuiteCompiler/Proofs/CommaLists.lean
  ====================================
  Lists that are written with commas, as the variable of the methods without a wait is.

  A value is made of fields with commas between them, and it is so in one way only
  (`split_eq_iff`).  A field is white space, or it holds an item with white space around
  it; which item that is does not depend on how the white space is told apart from it,
  since an item has none at its ends (`strip_eq_iff`).  So a value lists the items of its
  fields in their order (`ListsItems`), this is what is read from it
  (`parseList_eq_iff`), and whoever writes the items down again, with commas between them
  and any white space around each, has written the same list.
-/
import SuiteCompiler.Proofs.ExitStatus
import SuiteCompiler.Proofs.Lines
import SuiteCompiler.Proofs.MarkerGrammar
import SuiteCompiler.Proofs.Numerals

namespace SuiteCompiler

namespace Text

/-! ### White space around a text -/

/-- Neither the first nor the last character of a text is white space. -/
structure IsStripped (s : String) : Prop where
  head : ∀ c, s.toList.head? = some c → isBlank c = false
  last : ∀ c, s.toList.getLast? = some c → isBlank c = false

/-- A text is another one with white space around it. -/
def Holds (s item : String) : Prop :=
  ∃ before after, AllBlank before ∧ AllBlank after ∧ s = before ++ item ++ after

theorem holds_self (s : String) : Holds s s :=
  ⟨"", "", nofun, nofun, by simp⟩

theorem Holds.notMem_comma {s item : String} (h : Holds s item) (hitem : ',' ∉ item.toList) :
    ',' ∉ s.toList := by
  obtain ⟨before, after, hbefore, hafter, rfl⟩ := h
  simp only [String.toList_append, List.mem_append, not_or]
  exact ⟨⟨hbefore.notMem (by decide), hitem⟩, hafter.notMem (by decide)⟩

theorem trimWhile_append {p : Char → Bool} {before cs after : List Char}
    (hbefore : ∀ c ∈ before, p c = true) (hafter : ∀ c ∈ after, p c = true)
    (hhead : ∀ c, cs.head? = some c → p c = false)
    (hlast : ∀ c, cs.getLast? = some c → p c = false) :
    trimWhile p (before ++ cs ++ after) = cs := by
  unfold trimWhile
  rw [List.append_assoc, List.dropWhile_append_of_pos hbefore]
  rcases List.eq_nil_or_concat cs with rfl | ⟨front, last, rfl⟩
  · rw [List.nil_append, List.dropWhile_eq_nil_iff.2 hafter]
    rfl
  · have hstays : (front ++ [last] ++ after).dropWhile p = front ++ [last] ++ after := by
      cases front with
      | nil => exact List.dropWhile_cons_of_neg (by simp [hhead last rfl])
      | cons c front => exact List.dropWhile_cons_of_neg (by simp [hhead c rfl])
    rw [List.concat_eq_append] at hlast ⊢
    rw [hstays]
    exact Number.dropEndWhile_append (hlast last (by simp)) hafter

/-- What is left of a text without the white space around it. -/
theorem strip_eq_iff {s item : String} : strip s = item ↔ IsStripped item ∧ Holds s item := by
  constructor
  · rintro rfl
    obtain ⟨after, hrest, hafter⟩ :=
      Number.exists_dropEndWhile isBlank (s.toList.dropWhile isBlank)
    refine ⟨⟨fun c hc => ?_, fun c hc => ?_⟩, ?_⟩
    · have hhead : (s.toList.dropWhile isBlank).head? = some c := by
        rw [hrest, List.head?_append]
        simp only [strip, String.toList_ofList, trimWhile] at hc
        simp [hc]
      have hnot := List.head?_dropWhile_not isBlank s.toList
      rwa [hhead] at hnot
    · have hlast : ((s.toList.dropWhile isBlank).reverse.dropWhile isBlank).head? = some c := by
        simpa [strip, trimWhile, dropEndWhile] using hc
      have hnot := List.head?_dropWhile_not isBlank (s.toList.dropWhile isBlank).reverse
      rwa [hlast] at hnot
    · refine ⟨String.ofList (s.toList.takeWhile isBlank), String.ofList after, ?_, ?_, ?_⟩
      · intro c hc
        rw [String.toList_ofList] at hc
        exact List.mem_takeWhile_imp hc
      · intro c hc
        rw [String.toList_ofList] at hc
        exact hafter c hc
      · apply String.toList_injective
        simp only [strip, trimWhile, String.toList_append, String.toList_ofList, List.append_assoc]
        rw [← hrest, List.takeWhile_append_dropWhile]
  · rintro ⟨hitem, before, after, hbefore, hafter, rfl⟩
    apply String.toList_injective
    simp only [strip, String.toList_append, String.toList_ofList]
    exact trimWhile_append hbefore hafter hitem.head hitem.last

/-- A text of white space is stripped to nothing. -/
theorem strip_eq_empty_iff {s : String} : strip s = "" ↔ AllBlank s := by
  rw [strip_eq_iff]
  constructor
  · rintro ⟨-, before, after, hbefore, hafter, rfl⟩ c hc
    simp only [String.toList_append, List.mem_append] at hc
    rcases hc with (hc | hc) | hc
    · exact hbefore c hc
    · cases hc
    · exact hafter c hc
  · intro hblank
    have hnone : AllBlank "" := fun c hc => absurd hc List.not_mem_nil
    have hempty : IsStripped "" := by
      constructor
      · intro c hc
        cases hc
      · intro c hc
        cases hc
    exact ⟨hempty, s, "", hblank, hnone, by simp⟩

/-! ### Fields -/

/-- A text is made of fields, none of which has a comma, with commas between them. -/
structure HasFields (value : String) (fields : List String) : Prop where
  nonempty : fields ≠ []
  noComma : ∀ field ∈ fields, ',' ∉ field.toList
  text : value = ",".intercalate fields

theorem split_eq_iff {value : String} {fields : List String} :
    split ',' value = fields ↔ HasFields value fields := by
  constructor
  · rintro rfl
    refine ⟨?_, fun field hfield => ?_, ?_⟩
    · exact fun h => splitAt_ne_nil ',' value.toList (List.map_eq_nil_iff.1 h)
    · obtain ⟨piece, hpiece, rfl⟩ := List.mem_map.1 hfield
      rw [String.toList_ofList]
      exact notMem_of_mem_splitAt hpiece
    · apply String.toList_injective
      have hpieces : (split ',' value).map String.toList = splitAt ',' value.toList := by
        simp [split, Function.comp_def]
      rw [String.toList_intercalate, hpieces]
      exact (intercalate_splitAt ',' value.toList).symm
  · rintro ⟨hne, hcomma, rfl⟩
    have hpieces : splitAt ',' (",".intercalate fields).toList = fields.map String.toList := by
      rw [String.toList_intercalate]
      refine splitAt_intercalate (by simpa using hne) fun piece hpiece => ?_
      obtain ⟨field, hfield, rfl⟩ := List.mem_map.1 hpiece
      exact hcomma field hfield
    rw [split, hpieces]
    simp [Function.comp_def]

end Text

open Text Outcome

namespace Configuration

/-! ### Items -/

/-- What a list that is written with commas can hold. -/
structure IsItem (item : String) : Prop where
  nonempty : item ≠ ""
  noComma : ',' ∉ item.toList
  stripped : IsStripped item

/-- The items that fields hold, in their order; a field of white space holds none. -/
inductive ListsItems : List String → List String → Prop where
  | nil : ListsItems [] []
  | blank {field : String} {fields items : List String} (hfield : AllBlank field)
      (h : ListsItems fields items) : ListsItems (field :: fields) items
  | item {field item : String} {fields items : List String} (hitem : IsItem item)
      (hfield : Holds field item) (h : ListsItems fields items) :
      ListsItems (field :: fields) (item :: items)

theorem ListsItems.isItem {fields items : List String} (h : ListsItems fields items) :
    ∀ item ∈ items, IsItem item := by
  induction h with
  | nil => exact List.forall_mem_nil _
  | blank hfield h ih => exact ih
  | item hitem hfield h ih => exact List.forall_mem_cons.2 ⟨hitem, ih⟩

theorem ListsItems.noComma {fields items : List String} (h : ListsItems fields items) :
    ∀ field ∈ fields, ',' ∉ field.toList := by
  induction h with
  | nil => exact List.forall_mem_nil _
  | blank hfield h ih => exact List.forall_mem_cons.2 ⟨hfield.notMem (by decide), ih⟩
  | item hitem hfield h ih =>
    exact List.forall_mem_cons.2 ⟨hfield.notMem_comma hitem.noComma, ih⟩

theorem listsItems_of_forall₂ {fields items : List String} (h : List.Forall₂ Holds fields items)
    (hitems : ∀ item ∈ items, IsItem item) : ListsItems fields items := by
  induction h with
  | nil => exact .nil
  | cons hfield h ih =>
    obtain ⟨hitem, hitems⟩ := List.forall_mem_cons.1 hitems
    exact .item hitem hfield (ih hitems)

/-- An item is listed as often as there are fields that hold it. -/
theorem ListsItems.count_eq {fields items : List String} (h : ListsItems fields items)
    {item : String} (hitem : IsItem item) :
    items.count item = fields.countP (strip · = item) := by
  induction h with
  | nil => rw [List.count_nil, List.countP_nil]
  | blank hfield h ih =>
    rw [ih, List.countP_cons_of_neg]
    rw [decide_eq_true_eq, strip_eq_empty_iff.2 hfield]
    exact hitem.nonempty.symm
  | @item field other fields items hother hfield h ih =>
    have hstrip : strip field = other := strip_eq_iff.2 ⟨hother.stripped, hfield⟩
    by_cases hsame : other = item
    · subst hsame
      rw [List.count_cons_self, ih, List.countP_cons_of_pos (by simpa using hstrip)]
    · rw [List.count_cons_of_ne hsame, ih, List.countP_cons_of_neg (by simpa [hstrip] using hsame)]

theorem ListsItems.mem_iff {fields items : List String} (h : ListsItems fields items)
    {item : String} (hitem : IsItem item) :
    item ∈ items ↔ ∃ field ∈ fields, strip field = item := by
  rw [← List.count_pos_iff, h.count_eq hitem, List.countP_pos_iff]
  simp only [decide_eq_true_eq]

/-! ### Reading -/

theorem filter_strip_eq_iff {fields items : List String}
    (hcomma : ∀ field ∈ fields, ',' ∉ field.toList) :
    (fields.map strip).filter (· ≠ "") = items ↔ ListsItems fields items := by
  induction fields generalizing items with
  | nil =>
    constructor
    · rintro rfl
      exact .nil
    · rintro ⟨⟩
      rfl
  | cons field fields ih =>
    have ih := fun items => @ih items fun other hother =>
      hcomma other (List.mem_cons_of_mem field hother)
    obtain ⟨hstripped, hholds⟩ := strip_eq_iff.1 (rfl : strip field = strip field)
    by_cases hblank : strip field = ""
    · rw [List.map_cons, List.filter_cons_of_neg (by simpa using hblank), ih]
      constructor
      · exact .blank (strip_eq_empty_iff.1 hblank)
      · intro h
        cases h with
        | blank _ h => exact h
        | item hitem hfield h =>
          exact absurd ((strip_eq_iff.2 ⟨hitem.stripped, hfield⟩).symm.trans hblank) hitem.nonempty
    · have hitem : IsItem (strip field) := by
        refine ⟨hblank, fun hmem => hcomma field List.mem_cons_self ?_, hstripped⟩
        obtain ⟨before, after, -, -, htext⟩ := hholds
        rw [htext]
        simp [hmem]
      rw [List.map_cons, List.filter_cons_of_pos (by simpa using hblank)]
      constructor
      · rintro rfl
        exact .item hitem hholds ((ih _).1 rfl)
      · intro h
        cases h with
        | blank hfield _ => exact absurd (strip_eq_empty_iff.2 hfield) hblank
        | item hother hfield h =>
          rw [strip_eq_iff.2 ⟨hother.stripped, hfield⟩, (ih _).2 h]

/-- What is read from a value: the items of its fields. -/
theorem parseList_eq_iff {value : String} {items : List String} :
    parseList value = items ↔ ∃ fields, HasFields value fields ∧ ListsItems fields items := by
  have hfields : HasFields value (split ',' value) := split_eq_iff.1 rfl
  rw [parseList, filter_strip_eq_iff hfields.noComma]
  constructor
  · intro h
    exact ⟨_, hfields, h⟩
  · rintro ⟨fields, hvalue, h⟩
    rwa [split_eq_iff.2 hvalue]

/-- Items with white space around them are read back. -/
theorem parseList_intercalate {fields items : List String} (h : List.Forall₂ Holds fields items)
    (hitems : ∀ item ∈ items, IsItem item) : parseList (",".intercalate fields) = items := by
  rw [parseList_eq_iff]
  cases h with
  | nil =>
    -- no fields at all leave an empty value, which has one field
    refine ⟨[""], ⟨by simp, by simp, by simp⟩, .blank nofun .nil⟩
  | cons hfield h =>
    have hlists := listsItems_of_forall₂ (.cons hfield h) hitems
    exact ⟨_, ⟨List.cons_ne_nil _ _, hlists.noComma, rfl⟩, hlists⟩

/-- **The methods without a wait are read without loss.**  The configuration has the list that is
read from the value of the variable.  Its items are not empty, and they have no comma and no white
space at their ends.  The value is made of fields that hold these items in their order, so each item
is listed as often as there are fields that are stripped to it.  Written down again, with commas
between them and white space around them or without, the items make a value that is read as the same
list. -/
theorem illegalMethods_are_read_losslessly (value : String) :
    (∀ env, env.lookup illegalMethodsVariable = some value → IsValid env →
        ∃ config, ofEnvironment env = .ok config ∧ config.illegalMethods = parseList value) ∧
      (∀ item ∈ parseList value, IsItem item) ∧
      (∃ fields, HasFields value fields ∧ ListsItems fields (parseList value) ∧
        ∀ item, IsItem item →
          (item ∈ parseList value ↔ ∃ field ∈ fields, strip field = item) ∧
            (parseList value).count item = fields.countP (strip · = item)) ∧
      parseList (",".intercalate (parseList value)) = parseList value ∧
      ∀ fields, List.Forall₂ Holds fields (parseList value) →
        parseList (",".intercalate fields) = parseList value := by
  obtain ⟨fields, hfields, hlists⟩ := parseList_eq_iff.1 (rfl : parseList value = parseList value)
  refine ⟨fun env hset hvalid => ?_, hlists.isItem, ⟨fields, hfields, hlists, fun item hitem => ?_⟩,
    ?_, fun padded hpadded => ?_⟩
  · obtain ⟨config, hconfig⟩ := exists_ofEnvironment_iff.2 hvalid
    refine ⟨config, hconfig, ?_⟩
    obtain ⟨runner, -, hrest⟩ := bind_eq_ok_iff.1 hconfig
    obtain ⟨level, -, hrest⟩ := bind_eq_ok_iff.1 hrest
    obtain rfl := Except.ok.inj hrest
    simp [hset]
  · exact ⟨hlists.mem_iff hitem, hlists.count_eq hitem⟩
  · exact parseList_intercalate (List.forall₂_same.2 fun item _ => holds_self item) hlists.isItem
  · exact parseList_intercalate hpadded hlists.isItem

example : parseList "setViewport, emulate ,, set Cookie" = ["setViewport", "emulate", "set Cookie"] := by
  decide

end Configuration

end SuiteCompiler
