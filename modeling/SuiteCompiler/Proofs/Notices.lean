/-
  SuiteCompiler/Proofs/Notices.lean
  =================================
  What is printed of a text that stands in a message.

  The messages of a run are notices: markup of their own, which is printed as a label,
  and a text after it that nobody has looked at.  The label does not depend on the text
  (`IsLead`), but the text is read as markup too.  A plain text is printed as it is.  Of
  any other one something else is printed, or nothing (`render_of_not_isPlain`), and
  what is missing shows in the weight or in a character that is never printed, so it
  cannot be made up for elsewhere (`Damages`).  Hence notices appear as they are meant if
  and only if all of their texts are plain (`stderr_perform_notices_iff`).

  A screen breaks lines that are too long for it, each in its own way.  So all this is
  about messages of which no line is (`Step.Fits`).
-/
import Mathlib.Data.List.Basic
import SuiteCompiler.Proofs.Lines
import SuiteCompiler.Proofs.Outcome
import SuiteCompiler.Proofs.PlainText
import SuiteCompiler.Proofs.Transcripts

namespace SuiteCompiler.Console

open Markup Outcome

/-! ### Plain texts after others -/

/-- Text that has no markup in it, and no part in any that follows. -/
structure IsInert (lead : List Char) : Prop where
  noMarkup : ∀ c ∈ lead, c ≠ '[' ∧ c ≠ '\\'
  noCode : ∀ cs, Emoji.replace (lead ++ cs) = lead ++ Emoji.replace cs
  shown : ∀ c ∈ lead, IsShown c

theorem isInert_space : IsInert [' '] :=
  ⟨List.forall_mem_singleton.2 (by decide), fun _ => rfl, List.forall_mem_singleton.2 (by decide)⟩

theorem hasTag_append_iff {lead cs : List Char} (h : ∀ c ∈ lead, c ≠ '[' ∧ c ≠ '\\') :
    HasTag (lead ++ cs) ↔ HasTag cs := by
  induction lead with
  | nil => rfl
  | cons c lead ih =>
    obtain ⟨⟨hopen, -⟩, hlead⟩ := List.forall_mem_cons.1 h
    rw [List.cons_append, hasTag_cons_iff, ih hlead, or_iff_right fun h => hopen h.1]

theorem hasEscape_append_iff {lead cs : List Char} (h : ∀ c ∈ lead, c ≠ '[' ∧ c ≠ '\\') :
    HasEscape (lead ++ cs) ↔ HasEscape cs := by
  induction lead with
  | nil => rfl
  | cons c lead ih =>
    obtain ⟨⟨-, hslash⟩, hlead⟩ := List.forall_mem_cons.1 h
    rw [List.cons_append, HasEscape, List.infix_cons_iff, ← HasEscape, ih hlead]
    refine or_iff_right ?_
    rintro ⟨after, hafter⟩
    exact hslash (List.cons.inj hafter).1.symm

theorem IsInert.isPlain_append_iff {lead : List Char} (h : IsInert lead) {s : String} :
    IsPlain (String.ofList lead ++ s) ↔ IsPlain s := by
  have hcode : Emoji.replace (lead ++ s.toList) = lead ++ s.toList ↔
      Emoji.replace s.toList = s.toList := by
    rw [h.noCode, List.append_cancel_left_eq]
  have hshown : (∀ c ∈ lead ++ s.toList, IsShown c) ↔ ∀ c ∈ s.toList, IsShown c := by
    rw [List.forall_mem_append, and_iff_right h.shown]
  constructor
  · rintro ⟨htag, hescape, hreplace, hall⟩
    rw [String.toList_append, String.toList_ofList] at htag hescape hreplace hall
    exact ⟨mt (hasTag_append_iff h.noMarkup).2 htag, mt (hasEscape_append_iff h.noMarkup).2 hescape,
      hcode.1 hreplace, hshown.1 hall⟩
  · rintro ⟨htag, hescape, hreplace, hall⟩
    have htext : (String.ofList lead ++ s).toList = lead ++ s.toList := by
      rw [String.toList_append, String.toList_ofList]
    constructor
    · rw [htext]
      exact mt (hasTag_append_iff h.noMarkup).1 htag
    · rw [htext]
      exact mt (hasEscape_append_iff h.noMarkup).1 hescape
    · rw [htext]
      exact hcode.2 hreplace
    · rw [htext]
      exact hshown.2 hall

/-! ### Tabs -/

theorem weight_expandTabs (column : Nat) (cs : List Char) :
    weight (expandTabs column cs) = weight cs := by
  fun_induction expandTabs column cs with
  | case1 => rfl
  | case2 column rest width ih =>
    have hspaces : weight (List.replicate width ' ') = 0 :=
      weight_eq_zero fun c hc => by rw [List.eq_of_mem_replicate hc]; rfl
    rw [weight_append, weight_cons, hspaces, ih]
    rfl
  | case3 column rest ih => rw [weight_cons, weight_cons, ih]
  | case4 column c rest _ _ ih => rw [weight_cons, weight_cons, ih]

theorem isShown_of_mem_expandTabs {cs : List Char} (h : ∀ c ∈ cs, Message.isDropped c = false)
    (column : Nat) : ∀ c ∈ expandTabs column cs, IsShown c := by
  fun_induction expandTabs column cs with
  | case1 => exact List.forall_mem_nil _
  | case2 column rest width ih =>
    refine List.forall_mem_append.2 ⟨fun c hc => ?_, ih (List.forall_mem_cons.1 h).2⟩
    rw [List.eq_of_mem_replicate hc]
    exact ⟨by decide, rfl⟩
  | case3 column rest ih =>
    exact List.forall_mem_cons.2 ⟨⟨by decide, rfl⟩, ih (List.forall_mem_cons.1 h).2⟩
  | case4 column c rest htab _ ih =>
    obtain ⟨hc, hrest⟩ := List.forall_mem_cons.1 h
    exact List.forall_mem_cons.2 ⟨⟨htab, hc⟩, ih hrest⟩

/-- Text without tabs stays before what follows it. -/
theorem expandTabs_append {lead : List Char} (h : '\t' ∉ lead) (column : Nat) (cs : List Char) :
    ∃ column', expandTabs column (lead ++ cs) = lead ++ expandTabs column' cs := by
  induction lead generalizing column with
  | nil => exact ⟨column, rfl⟩
  | cons c lead ih =>
    rw [List.mem_cons, not_or] at h
    by_cases hline : c = '\n'
    · subst hline
      obtain ⟨column', hcolumn⟩ := ih h.2 0
      exact ⟨column', by rw [List.cons_append, expandTabs, hcolumn]; rfl⟩
    · obtain ⟨column', hcolumn⟩ := ih h.2 (column + columns c)
      refine ⟨column', ?_⟩
      rw [List.cons_append, expandTabs, hcolumn]
      · rfl
      · exact fun e => h.1 e.symm
      · exact hline

/-! ### What parts leave -/

/-- What is printed of a part of a message, but for tabs. -/
def Markup.Part.shown (p : Markup.Part) : List Char :=
  (Emoji.replace p.text).filter (!Message.isDropped ·)

theorem weight_filter_isDropped (cs : List Char) :
    weight (cs.filter (!Message.isDropped ·)) = weight cs := by
  induction cs with
  | nil => rfl
  | cons c cs ih =>
    by_cases hc : Message.isDropped c = true
    · have hweight : signWeight c = 0 := by
        simp only [Message.isDropped, Bool.or_eq_true, decide_eq_true_eq] at hc
        rcases hc with (((rfl | rfl) | rfl) | rfl) | rfl <;> rfl
      rw [List.filter_cons_of_neg (by simp [hc]), ih, weight_cons, hweight, Nat.zero_add]
    · rw [List.filter_cons_of_pos (by simp [hc]), weight_cons, weight_cons, ih]

theorem weight_shown_le (ps : List Markup.Part) :
    weight (ps.flatMap Markup.Part.shown) ≤ weight (ps.flatMap Markup.Part.text) := by
  induction ps with
  | nil => exact Nat.le_refl _
  | cons p ps ih =>
    rw [List.flatMap_cons, List.flatMap_cons, weight_append, weight_append, Markup.Part.shown,
      weight_filter_isDropped]
    exact Nat.add_le_add (Emoji.weight_replace_le p.text) ih

theorem not_isDropped_of_mem_shown {ps : List Markup.Part} :
    ∀ c ∈ ps.flatMap Markup.Part.shown, Message.isDropped c = false := by
  intro c hc
  obtain ⟨p, -, hp⟩ := List.mem_flatMap.1 hc
  simpa using (List.mem_filter.1 hp).2

namespace Message

theorem text_close {m m' : Message} {tag : OpenTag} {openTags : List OpenTag}
    (h : m.close tag openTags = .ok m') : m'.text = m.text := by
  unfold close at h
  split at h
  · split at h
    · cases h
      rfl
    · cases h
  · cases h
    rfl

theorem text_addTag {m m' : Message} {tag : Tag} (h : m.addTag tag = .ok m') :
    m'.text = m.text := by
  unfold addTag at h
  split at h
  · obtain ⟨name, -, hname⟩ := bind_eq_ok_iff.1 h
    cases hname
    rfl
  · split at h
    · cases h
    · exact text_close h
  · obtain ⟨name, -, hname⟩ := bind_eq_ok_iff.1 h
    split at hname
    · cases hname
    · exact text_close hname

theorem text_addPart {m m' : Message} {p : Markup.Part} (h : m.addPart p = .ok m') :
    m'.text = m.text ++ p.shown := by
  cases p with
  | plain text =>
    obtain rfl := Except.ok.inj h
    rfl
  | tag tag =>
    rw [text_addTag h]
    exact (List.append_nil _).symm

theorem text_addParts {m m' : Message} {ps : List Markup.Part} (h : ps.foldlM addPart m = .ok m') :
    m'.text = m.text ++ ps.flatMap Markup.Part.shown := by
  induction ps generalizing m with
  | nil =>
    obtain rfl := Except.ok.inj h
    exact (List.append_nil _).symm
  | cons p ps ih =>
    rw [List.foldlM_cons] at h
    obtain ⟨next, hnext, hrest⟩ := bind_eq_ok_iff.1 h
    rw [ih hrest, text_addPart hnext, List.flatMap_cons, List.append_assoc]

/-- A message that is printed whatever plain text is added to it. -/
structure IsSettled (m : Message) : Prop where
  closed : m.openTags = []
  colors : ∀ s ∈ m.spans, hasBadColor s = false
  shown : ∀ c ∈ m.text, IsShown c

theorem IsSettled.print_eq {m : Message} (h : m.IsSettled) : m.print = .ok (String.ofList m.text) := by
  have hspans : m.allSpans = m.spans := by
    rw [allSpans, h.closed, List.map_nil, List.append_nil]
  have hcolors : (m.allSpans.any fun s => m.isLookedUp s && hasBadColor s) = false := by
    rw [List.any_eq_false]
    intro s hs
    rw [hspans] at hs
    simp [h.colors s hs]
  rw [print, hcolors, if_neg Bool.false_ne_true,
    expandTabs_of_notMem fun htab => (h.shown _ htab).1 rfl]

theorem isSettled_empty : IsSettled {} :=
  ⟨rfl, List.forall_mem_nil _, List.forall_mem_nil _⟩

end Message

/-! ### Leads -/

/-- Markup that is printed as a label, whatever follows it. -/
def IsLead (markup label : String) : Prop :=
  ∃ m : Message, m.IsSettled ∧ m.text = label.toList ∧
    ∀ s, Message.ofMarkup (markup ++ s) = (parts s.toList).foldlM Message.addPart m

theorem isLead_empty : IsLead "" "" :=
  ⟨{}, Message.isSettled_empty, rfl, fun s => by rw [String.empty_append]; rfl⟩

theorem IsLead.shown {markup label : String} (h : IsLead markup label) :
    ∀ c ∈ label.toList, IsShown c := by
  obtain ⟨m, hm, hlabel, -⟩ := h
  rw [← hlabel]
  exact hm.shown

/-- Something of a text is missing in what is printed of it. -/
structure Damages (s r : String) : Prop where
  shown : ∀ c ∈ r.toList, IsShown c
  lighter : weight r.toList ≤ weight s.toList
  loss : weight r.toList + 2 ≤ weight s.toList ∨ ∃ c ∈ s.toList, ¬IsShown c

/-- What is missing does not come later. -/
theorem Damages.ne_append {s r : String} (h : Damages s r) (rest : String) : r ≠ s ++ rest := by
  rintro rfl
  have hshown := h.shown
  have hloss := h.loss
  simp only [String.toList_append, weight_append, List.forall_mem_append] at hshown hloss
  rcases hloss with hless | ⟨c, hc, hnot⟩
  · omega
  · exact hnot (hshown.1 c hc)

theorem foldlM_parts_of_isPlain {s : String} (h : IsPlain s) (m : Message) :
    (parts s.toList).foldlM Message.addPart m = .ok { m with text := m.text ++ s.toList } := by
  rcases parts_cases s.toList with ⟨-, -, hparts⟩ | ⟨hmarkup, -⟩
  · rw [hparts]
    by_cases hempty : s.toList = []
    · simp [hempty]
    · have hfilter : s.toList.filter (!Message.isDropped ·) = s.toList :=
        List.filter_eq_self.2 fun c hc => by simp [(h.shown c hc).2]
      simp [hempty, Message.addPart, h.noCode, hfilter]
  · rcases hmarkup with htag | hescape
    · exact absurd htag h.noTag
    · exact absurd hescape h.noEscape

/-- A plain text is printed as it is. -/
theorem render_of_isPlain {markup label s : String} (hlead : IsLead markup label) (hs : IsPlain s) :
    Message.render (markup ++ s) = .ok (label ++ s) := by
  obtain ⟨m, hm, hlabel, hparts⟩ := hlead
  have hsettled : Message.IsSettled { m with text := m.text ++ s.toList } :=
    ⟨hm.closed, hm.colors, List.forall_mem_append.2 ⟨hm.shown, hs.shown⟩⟩
  rw [Message.render, hparts, foldlM_parts_of_isPlain hs, ok_bind, hsettled.print_eq, hlabel,
    String.ofList_append, String.ofList_toList, String.ofList_toList]

/-- A text that is not plain is heavier than its parts, or one of its characters is not printed. -/
theorem loss_of_not_isPlain {s : String} (h : ¬IsPlain s) :
    weight ((parts s.toList).flatMap Markup.Part.shown) + 2 ≤ weight s.toList ∨
      ∃ c ∈ s.toList, ¬IsShown c := by
  rcases parts_cases s.toList with ⟨htag, hescape, hparts⟩ | ⟨-, hless⟩
  · by_cases hshown : ∀ c ∈ s.toList, IsShown c
    · left
      have hcode : Emoji.replace s.toList ≠ s.toList := fun hcode =>
        h ⟨htag, hescape, hcode, hshown⟩
      have hempty : s.toList.isEmpty = false := by
        rw [List.isEmpty_eq_false_iff]
        rintro hnil
        exact hcode (by rw [hnil]; rfl)
      have hless := (Emoji.replace_cases s.toList).resolve_left hcode
      rw [hparts, hempty, if_neg Bool.false_ne_true, List.flatMap_cons, List.flatMap_nil,
        List.append_nil, Markup.Part.shown, weight_filter_isDropped]
      exact hless
    · exact Or.inr (by simpa using hshown)
  · exact Or.inl (Nat.le_trans (Nat.add_le_add_right (weight_shown_le _) 2) hless)

theorem weight_shown_parts_le (cs : List Char) :
    weight ((parts cs).flatMap Markup.Part.shown) ≤ weight cs := by
  refine Nat.le_trans (weight_shown_le _) ?_
  rcases parts_cases cs with ⟨-, -, hparts⟩ | ⟨-, hless⟩
  · rw [hparts]
    split
    · exact Nat.zero_le _
    · rw [List.flatMap_cons, List.flatMap_nil, List.append_nil]
      exact Nat.le_refl _
  · exact Nat.le_of_add_right_le hless

/-- A text without markup does not keep a message from being printed. -/
theorem exists_render_of_light {markup label s : String} (hlead : IsLead markup label)
    (h : weight s.toList < 2) : ∃ text, Message.render (markup ++ s) = .ok text := by
  obtain ⟨m, hm, -, hparts⟩ := hlead
  rcases parts_cases s.toList with ⟨-, -, hplain⟩ | ⟨-, hless⟩
  · -- nothing but text is added, so no tag is open and no colour is new
    have hadded : ∃ m', (parts s.toList).foldlM Message.addPart m = .ok m' ∧
        m'.openTags = [] ∧ m'.spans = m.spans := by
      rw [hplain]
      split
      · exact ⟨m, rfl, hm.closed, rfl⟩
      · exact ⟨_, rfl, hm.closed, rfl⟩
    obtain ⟨m', hm', hclosed, hspans⟩ := hadded
    have hcolors : (m'.allSpans.any fun s => m'.isLookedUp s && Message.hasBadColor s) = false := by
      rw [List.any_eq_false, Message.allSpans, hclosed, hspans, List.map_nil, List.append_nil]
      intro s hs
      simp [hm.colors s hs]
    refine ⟨String.ofList (expandTabs 0 m'.text), ?_⟩
    rw [Message.render, hparts, hm', ok_bind, Message.print, hcolors, if_neg Bool.false_ne_true]
  · omega

/-- Of a text that is not plain something is missing in the message, or all of it. -/
theorem render_of_not_isPlain {markup label s : String} (hlead : IsLead markup label)
    (hs : ¬IsPlain s) :
    (∃ r, Message.render (markup ++ s) = .ok (label ++ r) ∧ Damages s r) ∨
      ((∃ fault, Message.render (markup ++ s) = .error fault) ∧ 2 ≤ weight s.toList) := by
  cases hrender : Message.render (markup ++ s) with
  | error fault =>
    refine Or.inr ⟨⟨fault, rfl⟩, ?_⟩
    by_contra hlight
    obtain ⟨text, htext⟩ := exists_render_of_light hlead (Nat.lt_of_not_le hlight)
    rw [hrender] at htext
    cases htext
  | ok text =>
    left
    obtain ⟨m, hm, hlabel, hparts⟩ := hlead
    rw [Message.render, hparts] at hrender
    obtain ⟨m', hm', hprint⟩ := bind_eq_ok_iff.1 hrender
    unfold Message.print at hprint
    split at hprint
    · cases hprint
    obtain rfl := Except.ok.inj hprint
    have htabs : '\t' ∉ m.text := fun htab => (hm.shown _ htab).1 rfl
    obtain ⟨column, hcolumn⟩ :=
      expandTabs_append htabs 0 ((parts s.toList).flatMap Markup.Part.shown)
    let r := String.ofList (expandTabs column ((parts s.toList).flatMap Markup.Part.shown))
    refine ⟨r, ?_, ?_, ?_, ?_⟩
    · rw [Message.text_addParts hm', hcolumn, hlabel, String.ofList_append, String.ofList_toList]
    · rw [String.toList_ofList]
      exact isShown_of_mem_expandTabs not_isDropped_of_mem_shown column
    · rw [String.toList_ofList, weight_expandTabs]
      exact weight_shown_parts_le s.toList
    · rw [String.toList_ofList, weight_expandTabs]
      exact loss_of_not_isPlain hs

/-- The plain texts are those that are printed as they are. -/
theorem render_eq_self_iff {s : String} : Message.render s = .ok s ↔ IsPlain s := by
  have hempty : "" ++ s = s := String.empty_append
  constructor
  · intro hself
    by_contra hs
    rcases render_of_not_isPlain isLead_empty hs with
      ⟨r, hrender, hdamages⟩ | ⟨⟨fault, hrender⟩, -⟩
    · rw [hempty, hself, String.empty_append] at hrender
      refine hdamages.ne_append "" ?_
      rw [String.append_empty]
      exact (Except.ok.inj hrender).symm
    · rw [hempty, hself] at hrender
      cases hrender
  · intro hs
    have hrender := render_of_isPlain isLead_empty hs
    rwa [hempty] at hrender

/-! ### Labels -/

/-- A label in a colour. -/
def labelled (color label : String) : String := s!"[{color}]{label}[/{color}]"

/-- The name of a colour, as it stands in a tag and in the one that closes it. -/
structure IsColorName (color : String) : Prop where
  body : IsTagBody color.toList
  opening : Tag.ofBody color.toList = { name := color.toList }
  opens : (Tag.ofBody color.toList).closes? = none
  closes : (Tag.ofBody ('/' :: color.toList)).closes? = some color.toList
  normal : Message.normalName color.toList = .ok color
  noHandler : color.toList.head? ≠ some '@'
  color : Style.parse color ≠ .error .notANumber

theorem isColorName_red : IsColorName "red" where
  body := ⟨⟨'r', ['e', 'd'], rfl, rfl⟩, by decide, by decide⟩
  opening := rfl
  opens := rfl
  closes := rfl
  normal := by decide +kernel
  noHandler := by decide
  color := by decide +kernel

theorem isColorName_green : IsColorName "green" where
  body := ⟨⟨'g', ['r', 'e', 'e', 'n'], rfl, rfl⟩, by decide, by decide⟩
  opening := rfl
  opens := rfl
  closes := rfl
  normal := by decide +kernel
  noHandler := by decide
  color := by decide +kernel

/-- A text that is printed as it is between tags. -/
structure IsLabel (label : String) : Prop where
  nonempty : label.toList ≠ []
  noMarkup : ∀ c ∈ label.toList, c ≠ '[' ∧ c ≠ '\\'
  noCode : Emoji.replace label.toList = label.toList
  shown : ∀ c ∈ label.toList, IsShown c

instance : DecidablePred IsLabel := fun label =>
  decidable_of_iff
    (label.toList ≠ [] ∧ (label.toList.all fun c => c ≠ '[' ∧ c ≠ '\\') = true ∧
      Emoji.replace label.toList = label.toList ∧ (label.toList.all fun c => IsShown c) = true)
    ⟨fun ⟨hne, hmarkup, hcode, hshown⟩ =>
        ⟨hne, by simpa using hmarkup, hcode, forall_isShown_of_all hshown⟩,
      fun h => ⟨h.nonempty, by simpa using h.noMarkup, h.noCode, by simpa using h.shown⟩⟩

theorem IsLabel.plainPart_eq {label : String} (h : IsLabel label) :
    plainPart label.toList = [.plain label.toList] := by
  have hescape : ¬HasEscape label.toList := by
    rintro ⟨before, after, hlabel⟩
    refine (h.noMarkup '[' ?_).1 rfl
    rw [← hlabel]
    simp
  rcases unescape_cases label.toList with ⟨-, hsame⟩ | ⟨hmarkup, -⟩
  · rw [plainPart, if_neg (by simpa using h.nonempty), hsame]
  · exact absurd hmarkup hescape

/-- A label in a colour has an effect on its own text alone. -/
theorem isLead_labelled {color label : String} (hcolor : IsColorName color)
    (hlabel : IsLabel label) : IsLead (labelled color label) label := by
  let m : Message :=
    { text := label.toList, spans := [⟨0, label.toList.length, color⟩] }
  have hbad : Message.hasBadColor ⟨0, label.toList.length, color⟩ = false := by
    unfold Message.hasBadColor
    split
    · next hparse => exact absurd hparse hcolor.color
    · rfl
  have hhandler : (⟨color, none, 0⟩ : OpenTag).isHandler = false := by
    simpa [OpenTag.isHandler] using hcolor.noHandler
  refine ⟨m, ⟨rfl, List.forall_mem_singleton.2 hbad, hlabel.shown⟩, rfl, fun s => ?_⟩
  have htext : (labelled color label ++ s).toList =
      [] ++ '[' :: (color.toList ++ ']' :: (label.toList ++
        '[' :: (('/' :: color.toList) ++ ']' :: s.toList))) := by
    simp [labelled, toString]
  have hclose : IsTagBody ('/' :: color.toList) := by
    refine ⟨⟨'/', color.toList, rfl, rfl⟩, ?_, ?_⟩
    · simpa using hcolor.body.noOpen
    · simpa using hcolor.body.noClose
  have hparts : parts (labelled color label ++ s).toList =
      .tag (Tag.ofBody color.toList) :: .plain label.toList ::
        .tag (Tag.ofBody ('/' :: color.toList)) :: parts s.toList := by
    rw [htext, parts_append_tag (List.forall_mem_nil _) hcolor.body,
      parts_append_tag hlabel.noMarkup hclose, hlabel.plainPart_eq]
    rfl
  have hopened : Message.addPart {} (.tag (Tag.ofBody color.toList)) =
      .ok { openTags := [⟨color, none, 0⟩] } := by
    rw [Message.addPart, Message.addTag, hcolor.opens, hcolor.opening]
    simp [hcolor.normal]
  have hfilter : label.toList.filter (!Message.isDropped ·) = label.toList :=
    List.filter_eq_self.2 fun c hc => by simp [(hlabel.shown c hc).2]
  have hshown : Message.addPart { openTags := [⟨color, none, 0⟩] } (.plain label.toList) =
      .ok { text := label.toList, openTags := [⟨color, none, 0⟩] } := by
    simp [Message.addPart, hlabel.noCode, hfilter]
  have hclosed : Message.addPart { text := label.toList, openTags := [⟨color, none, 0⟩] }
      (.tag (Tag.ofBody ('/' :: color.toList))) = .ok m := by
    obtain ⟨c, rest, hbody, -⟩ := hcolor.body.head
    rw [Message.addPart, Message.addTag, hcolor.closes, hbody]
    simp only
    rw [← hbody, hcolor.normal, ok_bind, Message.takeTag, if_pos rfl]
    simp only [Message.close, hhandler, Bool.false_eq_true, if_false]
    rfl
  rw [Message.ofMarkup, hparts, List.foldlM_cons, hopened, ok_bind, List.foldlM_cons, hshown, ok_bind,
    List.foldlM_cons, hclosed, ok_bind]

end SuiteCompiler.Console

namespace SuiteCompiler

open Console

/-- A text stands somewhere in another. -/
def Text.Occurs (text s : String) : Prop := text.toList <:+: s.toList

instance (text s : String) : Decidable (Text.Occurs text s) :=
  inferInstanceAs (Decidable (_ <:+: _))

/-! ### Notices -/

/-- A message about a text that may be anything. -/
structure Notice where
  /-- What stands before the text, as markup. -/
  markup : String
  /-- What is printed of it. -/
  label : String
  text : String
  isLead : IsLead markup label

namespace Notice

/-- A text after a label in a colour. -/
def colored {color label : String} (hcolor : IsColorName color) (hlabel : IsLabel label)
    (text : String) : Notice :=
  ⟨labelled color label, label, " " ++ text, isLead_labelled hcolor hlabel⟩

/-- A text alone. -/
def bare (text : String) : Notice := ⟨"", "", text, isLead_empty⟩

def step (n : Notice) : Step := .message (n.markup ++ n.text)

/-- The line that is meant to appear. -/
def line (n : Notice) : String := n.label ++ n.text

theorem isPlain_text_colored_iff {color label : String} {hcolor : IsColorName color}
    {hlabel : IsLabel label} {text : String} :
    IsPlain (colored hcolor hlabel text).text ↔ IsPlain text :=
  isInert_space.isPlain_append_iff

theorem step_bare (text : String) : (bare text).step = .message text := by
  rw [step, bare, String.empty_append]

theorem line_bare (text : String) : (bare text).line = text := by
  rw [line, bare, String.empty_append]

theorem isShown_of_mem_line {n : Notice} (h : IsPlain n.text) : ∀ c ∈ n.line.toList, IsShown c := by
  rw [line, String.toList_append]
  exact List.forall_mem_append.2 ⟨n.isLead.shown, h.shown⟩

end Notice

/-- Of what is printed, no line takes more columns than there are. -/
def Step.Fits (width : Option Nat) : Step → Prop
  | .message markup => ∀ text, Message.render markup = .ok text → fits width text = true
  | .log _ | .output _ | .write _ _ => True

instance (width : Option Nat) : DecidablePred (Step.Fits width) := fun step =>
  match step with
  | .message markup =>
    match h : Message.render markup with
    | .ok text =>
      decidable_of_iff (fits width text = true)
        ⟨fun hfits _ htext => Except.ok.inj (h.symm.trans htext) ▸ hfits, fun hfits => hfits text h⟩
    | .error _ => isTrue fun _ htext => nomatch h.symm.trans htext
  | .log _ | .output _ | .write _ _ => isTrue trivial

/-- A notice that fits is shown as it is printed. -/
theorem Notice.wrap_eq {n : Notice} {screen : Screen} (h : n.step.Fits screen.width) {text : String}
    (hrender : Message.render (n.markup ++ n.text) = .ok text) : screen.wrap text = text :=
  screen.wrap_of_fits text (h text hrender)

theorem isShown_newline : IsShown '\n' := ⟨by decide, by decide⟩

theorem isShown_block {lines : List String} (h : ∀ line ∈ lines, ∀ c ∈ line.toList, IsShown c) :
    ∀ c ∈ (Text.block lines).toList, IsShown c := by
  induction lines with
  | nil => exact List.forall_mem_nil _
  | cons line lines ih =>
    obtain ⟨hline, hlines⟩ := List.forall_mem_cons.1 h
    simp only [Text.block, String.toList_append, List.forall_mem_append]
    exact ⟨⟨hline, List.forall_mem_singleton.2 isShown_newline⟩, ih hlines⟩

theorem Console.Damages.le {s r : String} (h : r = s ∨ Damages s r) :
    weight r.toList ≤ weight s.toList := by
  rcases h with rfl | h
  · exact Nat.le_refl _
  · exact h.lighter

/-- What is missing in the first line, or in the others, is missing in the block. -/
theorem Console.Damages.block {label s r rest out : String} (hlabel : ∀ c ∈ label.toList, IsShown c)
    (hs : r = s ∧ (∀ c ∈ r.toList, IsShown c) ∨ Damages s r)
    (hout : out = rest ∧ (∀ c ∈ out.toList, IsShown c) ∨ Damages rest out)
    (h : Damages s r ∨ Damages rest out) :
    Damages (label ++ s ++ "\n" ++ rest) (label ++ r ++ "\n" ++ out) := by
  have hnewline : weight ("\n" : String).toList = 0 := rfl
  have hr := le (hs.imp_left And.left)
  have hrest := le (hout.imp_left And.left)
  have hshown : ∀ c ∈ r.toList, IsShown c := hs.elim (fun h => h.2) Damages.shown
  have hout : ∀ c ∈ out.toList, IsShown c := hout.elim (fun h => h.2) Damages.shown
  simp only [String.append_assoc] at *
  constructor
  · simp only [String.toList_append, List.forall_mem_append]
    exact ⟨hlabel, hshown, List.forall_mem_singleton.2 isShown_newline, hout⟩
  · simp only [String.toList_append, weight_append, hnewline]
    omega
  · simp only [String.toList_append, weight_append, hnewline, List.mem_append]
    rcases h with h | h
    · rcases h.loss with hless | ⟨c, hc, hnot⟩
      · exact Or.inl (by omega)
      · exact Or.inr ⟨c, Or.inr (Or.inl hc), hnot⟩
    · rcases h.loss with hless | ⟨c, hc, hnot⟩
      · exact Or.inl (by omega)
      · exact Or.inr ⟨c, Or.inr (Or.inr (Or.inr hc)), hnot⟩

namespace Transcript

/-- Notices appear as they are meant if their texts are plain, and else something is missing. -/
theorem stderr_perform_notices (notices : List Notice) (t : Transcript)
    (hfits : ∀ n ∈ notices, n.step.Fits t.screen.width) :
    ∃ out, (t.perform (notices.map Notice.step)).stderr = t.stderr ++ out ∧
      (((∀ n ∈ notices, IsPlain n.text) ∧ out = Text.block (notices.map Notice.line)) ∨
        ((∃ n ∈ notices, ¬IsPlain n.text) ∧
          Damages (Text.block (notices.map Notice.line)) out)) := by
  induction notices generalizing t with
  | nil => exact ⟨"", String.append_empty.symm, Or.inl ⟨List.forall_mem_nil _, rfl⟩⟩
  | cons n notices ih =>
    obtain ⟨hfirst, hfits⟩ := List.forall_mem_cons.1 hfits
    rw [List.map_cons, List.map_cons, Text.block, Notice.step, perform]
    -- the notices after the first one, if that is printed as `text`
    have hrest : ∀ text, ∃ out,
        ((perform { t with stderr := t.stderr ++ text ++ "\n" }
          (notices.map Notice.step)).stderr = t.stderr ++ (text ++ "\n" ++ out)) ∧
        (((∀ n ∈ notices, IsPlain n.text) ∧ out = Text.block (notices.map Notice.line)) ∨
          ((∃ n ∈ notices, ¬IsPlain n.text) ∧
            Damages (Text.block (notices.map Notice.line)) out)) := by
      intro text
      obtain ⟨out, hout, hcases⟩ := ih { t with stderr := t.stderr ++ text ++ "\n" } hfits
      exact ⟨out, by rw [hout]; simp only [String.append_assoc], hcases⟩
    by_cases hplain : IsPlain n.text
    · have hrender := render_of_isPlain n.isLead hplain
      simp only [hrender, Notice.wrap_eq hfirst hrender]
      obtain ⟨out, hout, hcases⟩ := hrest (n.label ++ n.text)
      refine ⟨_, hout, ?_⟩
      rcases hcases with ⟨hall, rfl⟩ | ⟨⟨n', hn', hnot⟩, hdamages⟩
      · exact Or.inl ⟨List.forall_mem_cons.2 ⟨hplain, hall⟩, rfl⟩
      · refine Or.inr ⟨⟨n', List.mem_cons_of_mem n hn', hnot⟩, ?_⟩
        exact .block n.isLead.shown (Or.inl ⟨rfl, hplain.shown⟩) (Or.inr hdamages) (Or.inr hdamages)
    · rcases render_of_not_isPlain n.isLead hplain with
        ⟨r, hrender, hdamages⟩ | ⟨⟨fault, hrender⟩, hweight⟩
      · simp only [hrender, Notice.wrap_eq hfirst hrender]
        obtain ⟨out, hout, hcases⟩ := hrest (n.label ++ r)
        refine ⟨_, hout, Or.inr ⟨⟨n, List.mem_cons_self, hplain⟩, ?_⟩⟩
        refine .block n.isLead.shown (Or.inr hdamages) ?_ (Or.inl hdamages)
        rcases hcases with ⟨hall, rfl⟩ | ⟨-, hlater⟩
        · refine Or.inl ⟨rfl, isShown_block fun line hline => ?_⟩
          obtain ⟨n', hn', rfl⟩ := List.mem_map.1 hline
          exact Notice.isShown_of_mem_line (hall n' hn')
        · exact Or.inr hlater
      · rw [hrender]
        refine ⟨"", String.append_empty.symm, Or.inr ⟨⟨n, List.mem_cons_self, hplain⟩, ?_⟩⟩
        have hmissing : 2 ≤ weight (n.line ++ "\n" ++ Text.block (notices.map Notice.line)).toList := by
          simp only [Notice.line, String.toList_append, weight_append]
          omega
        refine ⟨List.forall_mem_nil _, Nat.zero_le _, Or.inl ?_⟩
        exact Nat.le_trans (Nat.le_of_eq (Nat.zero_add 2)) hmissing

/-- Notices appear as they are meant if and only if their texts are plain. -/
theorem stderr_perform_notices_iff (notices : List Notice) (t : Transcript)
    (hfits : ∀ n ∈ notices, n.step.Fits t.screen.width) :
    (t.perform (notices.map Notice.step)).stderr =
        t.stderr ++ Text.block (notices.map Notice.line) ↔
      ∀ n ∈ notices, IsPlain n.text := by
  obtain ⟨out, hout, ⟨hall, rfl⟩ | ⟨⟨n, hn, hnot⟩, hdamages⟩⟩ :=
    stderr_perform_notices notices t hfits
  · exact ⟨fun _ => hall, fun _ => hout⟩
  · constructor
    · intro hmeant
      rw [hout] at hmeant
      refine absurd ?_ (hdamages.ne_append "")
      rw [String.append_empty]
      exact (String.append_right_inj t.stderr).1 hmeant
    · intro hall
      exact absurd (hall n hn) hnot

/-- A text after a label appears if and only if it is plain. -/
theorem occurs_perform_colored_iff {color label : String} (hcolor : IsColorName color)
    (hlabel : IsLabel label) (hlight : weight label.toList < 2) {t : Transcript}
    (ht : t.stderr = "") (text : String)
    (hfits : (Notice.colored hcolor hlabel text).step.Fits t.screen.width) :
    Text.Occurs text (t.perform [(Notice.colored hcolor hlabel text).step]).stderr ↔
      IsPlain text := by
  have hblock : Text.block [(Notice.colored hcolor hlabel text).line] =
      label ++ " " ++ text ++ "\n" := by
    simp only [Text.block, Notice.line, Notice.colored, String.append_assoc, String.append_empty]
  obtain ⟨out, hout, hcases⟩ := stderr_perform_notices [Notice.colored hcolor hlabel text] t
    (List.forall_mem_singleton.2 hfits)
  rw [List.map_singleton, hblock] at hcases
  rw [List.map_singleton, ht, String.empty_append] at hout
  rw [hout]
  rcases hcases with ⟨hall, rfl⟩ | ⟨⟨n, hn, hnot⟩, hdamages⟩
  · refine iff_of_true ?_ (Notice.isPlain_text_colored_iff.1 (hall _ List.mem_cons_self))
    exact ⟨(label ++ " ").toList, ['\n'], by simp⟩
  · obtain rfl := List.mem_singleton.1 hn
    refine iff_of_false (fun hoccurs => ?_) (mt Notice.isPlain_text_colored_iff.2 hnot)
    -- what is missing is missing in the text, since the label weighs too little
    have hloss := hdamages.loss
    have hweights : weight (" " : String).toList = 0 ∧ weight ("\n" : String).toList = 0 :=
      ⟨rfl, rfl⟩
    simp only [String.toList_append, weight_append, List.mem_append] at hloss
    rcases hloss with hless | ⟨c, ((hc | hc) | hc) | hc, hhidden⟩
    · have hle := weight_le_of_infix hoccurs
      omega
    · exact hhidden (hlabel.shown c hc)
    · exact hhidden (isInert_space.shown c hc)
    · exact hhidden (hdamages.shown c (hoccurs.subset hc))
    · exact hhidden (by rw [List.mem_singleton.1 hc]; exact isShown_newline)

/-- A plain notice that comes first appears as it is meant, whatever follows. -/
theorem occurs_line_of_head {n : Notice} {t : Transcript} (steps : List Step)
    (hfits : n.step.Fits t.screen.width) (hplain : IsPlain n.text) :
    Text.Occurs n.line (t.perform (n.step :: steps)).stderr := by
  have hrender := render_of_isPlain n.isLead hplain
  rw [Notice.step, perform, hrender]
  simp only [Notice.wrap_eq hfits hrender]
  obtain ⟨out, hout⟩ := exists_stderr_perform steps
    { t with stderr := t.stderr ++ (n.label ++ n.text) ++ "\n" }
  refine ⟨t.stderr.toList, ("\n" ++ out).toList, ?_⟩
  rw [hout]
  simp [Notice.line]

/-- Where every message is printed, the plain ones appear as they are meant. -/
theorem occurs_line_of_mem {notices : List Notice} {t : Transcript}
    (hending : ∀ fault, (t.perform (notices.map Notice.step)).ending ≠ .crash (.message fault))
    {n : Notice} (hn : n ∈ notices) (hfits : n.step.Fits t.screen.width) (hplain : IsPlain n.text) :
    Text.Occurs n.line (t.perform (notices.map Notice.step)).stderr := by
  induction notices generalizing t with
  | nil => cases hn
  | cons first notices ih =>
    rcases List.mem_cons.1 hn with rfl | hn
    · exact occurs_line_of_head _ hfits hplain
    · rw [List.map_cons, Notice.step, perform] at hending ⊢
      cases hrender : Message.render (first.markup ++ first.text) with
      | error fault =>
        rw [hrender] at hending
        exact absurd rfl (hending fault)
      | ok text =>
        rw [hrender] at hending
        exact ih hending hn hfits

end Transcript

end SuiteCompiler
