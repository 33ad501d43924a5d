import BreakageAdvisor.Message
import BreakageAdvisor.Proofs.Text.Parts

/-!
# Markup is read back

Markup is read in one pass from left to right: tags and entities are what they say, and everything
else stands for itself. Tags and entities are a code in which none begins like another. So the
markup of a message is read as what was written, whatever texts stand in the message: no text brings
in a tag or an entity of its own, and none is lost.
-/

namespace BreakageAdvisor

/-- What markup is made of. -/
inductive Mark where
  /-- The tag in front of emphasis. -/
  | opening
  /-- The tag behind emphasis. -/
  | closing
  /-- A code point that is shown. -/
  | shown (c : CodePoint)
  deriving DecidableEq

namespace Mark

/-- The tags. -/
def tags : List (Text × Mark) := [("<strong>", opening), ("</strong>", closing)]

/-- The entities, with the code points that they stand for. -/
def entities : List (Text × Mark) :=
  [("&amp;", shown '&'), ("&lt;", shown '<'), ("&gt;", shown '>'), ("&quot;", shown '"'),
    ("&#x27;", shown '\'')]

/-- Reads markup from left to right. What is neither a tag nor an entity stands for itself. -/
def ofMarkup : Text → List Mark
  | [] => []
  | c :: rest =>
    match (tags ++ entities).find? fun entry => Text.isPrefixOf entry.1 (c :: rest) with
    | some (written, mark) => mark :: ofMarkup (rest.drop (written.length - 1))
    | none => shown c :: ofMarkup rest
termination_by t => t.length
decreasing_by
  · simp only [List.length_drop, List.length_cons]
    omega
  · exact Nat.lt_succ_self _

/-- Whether a mark is a tag. -/
def isTag : Mark → Bool
  | shown _ => false
  | _ => true

/-- The text that is shown; tags are left out. -/
def text (marks : List Mark) : Text :=
  marks.filterMap fun
    | shown c => some c
    | _ => none

/-- The texts that are shown between an opening tag and the closing tag that comes next, in
order. -/
def emphasised : List Mark → List Text
  | [] => []
  | opening :: rest => text (rest.takeWhile (· != closing)) :: emphasised rest
  | _ :: rest => emphasised rest

/-- Nothing with a meaning in markup stands for itself in a text: angle brackets belong to tags, an
ampersand begins an entity, and there are no quotation marks. -/
structure Clean (t : Text) : Prop where
  less : ∀ before after, t = before ++ CodePoint.ofChar '<' :: after →
    ∃ tag ∈ tags, tag.1 <+: CodePoint.ofChar '<' :: after
  greater : ∀ before after, t = before ++ CodePoint.ofChar '>' :: after →
    ∃ tag ∈ tags, tag.1 <:+ before ++ [CodePoint.ofChar '>']
  ampersand : ∀ before after, t = before ++ CodePoint.ofChar '&' :: after →
    ∃ entity ∈ entities, entity.1 <+: CodePoint.ofChar '&' :: after
  quotes : CodePoint.ofChar '"' ∉ t ∧ CodePoint.ofChar '\'' ∉ t

/-- How a mark is written. -/
def spelling : Mark → Text
  | opening => "<strong>"
  | closing => "</strong>"
  | shown c => Message.escapePoint c

section Spelling

private theorem eq_of_begins : ∀ entry ∈ tags ++ entities, ∀ other ∈ tags ++ entities,
    entry.1 <+: other.1 → entry = other := by decide +kernel

private theorem head?_of_mem : ∀ entry ∈ tags ++ entities,
    entry.1.head? = some (CodePoint.ofChar '<') ∨
      entry.1.head? = some (CodePoint.ofChar '&') := by decide +kernel

/-- A mark is written as a tag or an entity, unless it shows a code point that may stand for
itself. -/
private theorem spelling_cases (m : Mark) :
    (m.spelling, m) ∈ tags ++ entities ∨
      ∃ c, m = shown c ∧ m.spelling = [c] ∧ ∀ special : Char,
        special ∈ ['&', '<', '>', '"', '\''] → c ≠ CodePoint.ofChar special := by
  cases m with
  | opening => exact .inl (by decide +kernel)
  | closing => exact .inl (by decide +kernel)
  | shown c =>
    rw [spelling, Message.escapePoint]
    split
    · next h => exact .inl (by rw [h]; decide +kernel)
    split
    · next h => exact .inl (by rw [h]; decide +kernel)
    split
    · next h => exact .inl (by rw [h]; decide +kernel)
    split
    · next h => exact .inl (by rw [h]; decide +kernel)
    split
    · next h => exact .inl (by rw [h]; decide +kernel)
    · exact .inr ⟨c, rfl, rfl, by simp [*]⟩

private theorem find?_written {entry : Text × Mark} (h : entry ∈ tags ++ entities) (rest : Text) :
    ((tags ++ entities).find? fun other => Text.isPrefixOf other.1 (entry.1 ++ rest)) =
      some entry := by
  have hself : Text.isPrefixOf entry.1 (entry.1 ++ rest) :=
    Text.isPrefixOf_iff.mpr (List.prefix_append _ _)
  cases hf : (tags ++ entities).find? fun other => Text.isPrefixOf other.1 (entry.1 ++ rest) with
  | none => exact absurd hself (List.find?_eq_none.mp hf entry h)
  | some other =>
    have hother := List.mem_of_find?_eq_some hf
    have hp : other.1 <+: entry.1 ++ rest := by
      have hp := List.find?_some hf
      exact Text.isPrefixOf_iff.mp hp
    rcases List.prefix_or_prefix_of_prefix hp (List.prefix_append entry.1 rest) with hp | hp
    · rw [eq_of_begins other hother entry h hp]
    · rw [eq_of_begins entry h other hother hp]

private theorem ofMarkup_spelling (m : Mark) (rest : Text) :
    ofMarkup (m.spelling ++ rest) = m :: ofMarkup rest := by
  rcases spelling_cases m with h | ⟨c, rfl, hs, hc⟩
  · have hfind := find?_written h rest
    have hhead := head?_of_mem _ h
    cases hw : m.spelling with
    | nil => simp [hw] at hhead
    | cons c tail =>
      rw [hw] at hfind
      dsimp only at hfind
      rw [List.cons_append] at hfind ⊢
      rw [ofMarkup, hfind]
      simp
  · have hnone : ((tags ++ entities).find? fun entry => Text.isPrefixOf entry.1 (c :: rest)) =
        none := by
      rw [List.find?_eq_none]
      intro entry he hp
      obtain ⟨tail, ht⟩ := Text.isPrefixOf_iff.mp hp
      have hhead := head?_of_mem entry he
      cases hw : entry.1 with
      | nil => simp [hw] at hhead
      | cons d written =>
        rw [hw, List.cons_append, List.cons.injEq] at ht
        rw [hw, List.head?_cons, ht.1, Option.some.injEq, Option.some.injEq] at hhead
        rcases hhead with hhead | hhead
        · exact hc '<' (by decide) hhead
        · exact hc '&' (by decide) hhead
    rw [hs, List.singleton_append, ofMarkup, hnone]

private theorem ofMarkup_flatMap_spelling (marks : List Mark) :
    ofMarkup (marks.flatMap spelling) = marks := by
  induction marks with
  | nil => rw [List.flatMap_nil, ofMarkup]
  | cons m rest ih => rw [List.flatMap_cons, ofMarkup_spelling, ih]

end Spelling

section Places

variable {before after t : Text} {c : CodePoint}

private theorem exists_mark_of_flatMap {marks : List Mark}
    (h : marks.flatMap spelling = before ++ c :: after) :
    ∃ (m : Mark) (front back behind ahead : Text), m.spelling = front ++ c :: back ∧
      before = behind ++ front ∧ after = back ++ ahead := by
  induction marks generalizing before with
  | nil => simp at h
  | cons m rest ih =>
    -- The place is in what follows the first mark, or in its spelling.
    have later (behind : Text) (hb : before = m.spelling ++ behind)
        (hr : rest.flatMap spelling = behind ++ c :: after) :
        ∃ (m : Mark) (front back behind ahead : Text), m.spelling = front ++ c :: back ∧
          before = behind ++ front ∧ after = back ++ ahead := by
      obtain ⟨m', front, back, behind', ahead, hs, rfl, hafter⟩ := ih hr
      exact ⟨m', front, back, m.spelling ++ behind', ahead, hs, by rw [hb, List.append_assoc],
        hafter⟩
    rw [List.flatMap_cons, List.append_eq_append_iff] at h
    rcases h with ⟨behind, hb, hr⟩ | ⟨tail, hm, ht⟩
    · exact later behind hb hr
    · cases tail with
      | nil => exact later [] (by rw [hm, List.append_nil, List.append_nil]) ht.symm
      | cons d back =>
        obtain ⟨rfl, rfl⟩ := List.cons.inj ht
        exact ⟨m, before, back, [], _, hm, rfl, rfl⟩

private theorem exists_written_of_flatMap {marks : List Mark} {special : Char}
    (hs : special ∈ ['&', '<', '>', '"', '\''])
    (h : marks.flatMap spelling = before ++ CodePoint.ofChar special :: after) :
    ∃ entry ∈ tags ++ entities, ∃ front back behind ahead : Text,
      entry.1 = front ++ CodePoint.ofChar special :: back ∧ before = behind ++ front ∧
        after = back ++ ahead := by
  obtain ⟨m, front, back, behind, ahead, hm, hb, ha⟩ := exists_mark_of_flatMap h
  rcases spelling_cases m with hw | ⟨c, -, hc, hn⟩
  · exact ⟨_, hw, front, back, behind, ahead, hm, hb, ha⟩
  · rw [hc] at hm
    have hmem : CodePoint.ofChar special ∈ [c] := by
      rw [hm]
      exact List.mem_append_right _ List.mem_cons_self
    exact absurd (List.mem_singleton.mp hmem).symm (hn special hs)

/-- A code point that a list does not hold behind its head is the head. -/
private theorem front_eq_nil {written front back : Text} (h : written = front ++ c :: back)
    (hn : c ∉ written.tail) : front = [] := by
  cases front with
  | nil => rfl
  | cons d front =>
    rw [h, List.cons_append, List.tail_cons] at hn
    exact absurd (List.mem_append_right _ List.mem_cons_self) hn

/-- A code point that a list does not hold before its last is the last. -/
private theorem back_eq_nil {written front back : Text} (h : written = front ++ c :: back)
    (hn : c ∉ written.dropLast) : back = [] := by
  cases back with
  | nil => rfl
  | cons d back =>
    rw [h, List.dropLast_append_of_ne_nil (by simp), List.dropLast_cons_of_ne_nil (by simp)] at hn
    exact absurd (List.mem_append_right _ List.mem_cons_self) hn

private theorem clean_flatMap_spelling (marks : List Mark) : Clean (marks.flatMap spelling) where
  less := by
    have hplace : ∀ entry ∈ tags ++ entities, CodePoint.ofChar '<' ∉ entry.1.tail := by
      decide +kernel
    have hentity : ∀ entry ∈ entities, CodePoint.ofChar '<' ∉ entry.1 := by decide +kernel
    intro before after h
    obtain ⟨entry, he, front, back, behind, ahead, hw, -, rfl⟩ :=
      exists_written_of_flatMap (by decide) h
    obtain rfl := front_eq_nil hw (hplace entry he)
    rcases List.mem_append.mp he with he | he
    · exact ⟨entry, he, ahead, by rw [hw]; rfl⟩
    · exact absurd (hw ▸ List.mem_cons_self) (hentity entry he)
  greater := by
    have hplace : ∀ entry ∈ tags ++ entities, CodePoint.ofChar '>' ∉ entry.1.dropLast := by
      decide +kernel
    have hentity : ∀ entry ∈ entities, CodePoint.ofChar '>' ∉ entry.1 := by decide +kernel
    intro before after h
    obtain ⟨entry, he, front, back, behind, ahead, hw, rfl, -⟩ :=
      exists_written_of_flatMap (by decide) h
    obtain rfl := back_eq_nil hw (hplace entry he)
    rcases List.mem_append.mp he with he | he
    · exact ⟨entry, he, behind, by rw [hw, List.append_assoc]⟩
    · exact absurd (hw ▸ List.mem_append_right _ List.mem_cons_self) (hentity entry he)
  ampersand := by
    have hplace : ∀ entry ∈ tags ++ entities, CodePoint.ofChar '&' ∉ entry.1.tail := by
      decide +kernel
    have htag : ∀ entry ∈ tags, CodePoint.ofChar '&' ∉ entry.1 := by decide +kernel
    intro before after h
    obtain ⟨entry, he, front, back, behind, ahead, hw, -, rfl⟩ :=
      exists_written_of_flatMap (by decide) h
    obtain rfl := front_eq_nil hw (hplace entry he)
    rcases List.mem_append.mp he with he | he
    · exact absurd (hw ▸ List.mem_cons_self) (htag entry he)
    · exact ⟨entry, he, ahead, by rw [hw]; rfl⟩
  quotes := by
    have habsent (special : Char) (hs : special ∈ ['&', '<', '>', '"', '\''])
        (hnone : ∀ entry ∈ tags ++ entities, CodePoint.ofChar special ∉ entry.1) :
        CodePoint.ofChar special ∉ marks.flatMap spelling := by
      intro hm
      obtain ⟨before, after, h⟩ := List.append_of_mem hm
      obtain ⟨entry, he, front, back, -, -, hw, -, -⟩ := exists_written_of_flatMap hs h
      exact hnone entry he (hw ▸ List.mem_append_right _ List.mem_cons_self)
    exact ⟨habsent '"' (by decide) (by decide +kernel),
      habsent '\'' (by decide) (by decide +kernel)⟩

end Places

section Emphasis

private theorem text_append (a b : List Mark) : text (a ++ b) = text a ++ text b :=
  List.filterMap_append ..

private theorem text_map_shown (t : Text) : text (t.map shown) = t := by
  rw [text, List.filterMap_map]
  exact List.filterMap_some

private theorem emphasised_shown (t : Text) (rest : List Mark) :
    emphasised (t.map shown ++ rest) = emphasised rest := by
  induction t with
  | nil => rfl
  | cons c t ih => exact ih

private theorem emphasised_between (t : Text) (rest : List Mark) :
    emphasised (opening :: t.map shown ++ closing :: rest) = t :: emphasised rest := by
  have htake : (t.map shown ++ closing :: rest).takeWhile (· != closing) = t.map shown := by
    rw [List.takeWhile_append_of_pos (by simp), List.takeWhile_cons_of_neg (by simp),
      List.append_nil]
  rw [List.cons_append, emphasised, htake, text_map_shown, emphasised_shown, emphasised]
  exact nofun

end Emphasis

end Mark

namespace Message

/-- The marks of a part. -/
def partMarks (part : MessagePart) : List Mark :=
  if part.emphasis then .opening :: part.text.map .shown ++ [.closing] else part.text.map .shown

/-- The marks of a message. -/
def marks (m : Message) : List Mark := m.parts.flatMap partMarks

private theorem toMarkup_eq (m : Message) : m.toMarkup = m.marks.flatMap Mark.spelling := by
  rw [toMarkup, marks, List.flatMap_assoc]
  congr 1
  funext part
  have hescape (t : Text) : (t.map Mark.shown).flatMap Mark.spelling = escape t :=
    List.flatMap_map ..
  unfold partToMarkup partMarks
  split
  · rw [List.cons_append, List.flatMap_cons, List.flatMap_append, hescape, ← List.append_assoc]
    rfl
  · rw [hescape]

private theorem text_marks (m : Message) : Mark.text m.marks = m.toText := by
  rw [marks, toText]
  induction m.parts with
  | nil => rfl
  | cons part rest ih =>
    rw [List.flatMap_cons, List.flatMap_cons, Mark.text_append, ih]
    congr 1
    unfold partMarks
    split
    · change Mark.text (part.text.map .shown ++ [.closing]) = part.text
      rw [Mark.text_append, Mark.text_map_shown]
      exact List.append_nil _
    · exact Mark.text_map_shown _

private theorem tags_marks (m : Message) :
    m.marks.filter Mark.isTag =
      (List.replicate (m.parts.countP (·.emphasis)) [Mark.opening, Mark.closing]).flatten := by
  have hshown (t : Text) : (t.map Mark.shown).filter Mark.isTag = [] := by
    simp [List.filter_map, Mark.isTag]
  rw [marks]
  induction m.parts with
  | nil => rfl
  | cons part rest ih =>
    rw [List.flatMap_cons, List.filter_append, ih]
    by_cases he : part.emphasis
    · rw [List.countP_cons_of_pos he, List.replicate_succ, List.flatten_cons]
      congr 1
      rw [partMarks, if_pos he, List.cons_append, List.filter_cons_of_pos rfl, List.filter_append,
        hshown]
      rfl
    · rw [List.countP_cons_of_neg he, partMarks, if_neg he, hshown, List.nil_append]

private theorem emphasised_marks (m : Message) :
    Mark.emphasised m.marks = (m.parts.filter (·.emphasis)).map (·.text) := by
  rw [marks]
  induction m.parts with
  | nil => rfl
  | cons part rest ih =>
    rw [List.flatMap_cons]
    by_cases he : part.emphasis
    · rw [partMarks, if_pos he, List.filter_cons_of_pos he, List.map_cons, List.append_assoc,
        List.singleton_append, Mark.emphasised_between, ih]
    · rw [partMarks, if_neg he, List.filter_cons_of_neg he, Mark.emphasised_shown, ih]

/-- A message can be had as markup and as text. In the markup every angle bracket belongs to a tag
and every ampersand begins an entity, and there are no quotation marks. Read in one pass, opening
and closing tags alternate, as many pairs as there are parts with emphasis; without the tags the
text of the message is shown, and between the tags the texts of those parts are. -/
theorem markup_read_back (m : Message) :
    ∃ markup text, m.formatNamed (.text "html") = .ok markup ∧
      m.formatNamed (.text "text") = .ok text ∧ Mark.Clean markup ∧
      (Mark.ofMarkup markup).filter Mark.isTag =
        (List.replicate (m.parts.countP (·.emphasis)) [Mark.opening, Mark.closing]).flatten ∧
      Mark.text (Mark.ofMarkup markup) = text ∧
      Mark.emphasised (Mark.ofMarkup markup) = (m.parts.filter (·.emphasis)).map (·.text) := by
  refine ⟨m.toMarkup, m.toText, rfl, rfl, ?_⟩
  rw [toMarkup_eq, Mark.ofMarkup_flatMap_spelling]
  exact ⟨Mark.clean_flatMap_spelling _, tags_marks m, text_marks m, emphasised_marks m⟩

-- Two parts whose texts make up an entity do not make one up in markup.
example : toMarkup (.rich [⟨"&am", false⟩, ⟨"p;", true⟩]) =
    ("&amp;am<strong>p;</strong>" : Text) := by decide +kernel

end Message

end BreakageAdvisor
