import Mathlib.Data.List.Infix
import Mathlib.Data.List.TakeWhile
import TypedBus.TypeName

namespace TypedBus

namespace TypeName

variable {cs part : List Char}

/-- Nowhere do two colons stand in a row. -/
def Unjoined (cs : List Char) : Prop := ¬ [':', ':'] <:+: cs

theorem unjoined_cons_cons {b c : Char} :
    Unjoined (b :: c :: cs) ↔ ¬ (b = ':' ∧ c = ':') ∧ Unjoined (c :: cs) := by
  simp only [Unjoined, List.infix_cons_iff (a := b), List.cons_prefix_cons, List.nil_prefix, and_true,
    not_or, eq_comm (a := ':')]

theorem Unjoined.of_cons {c : Char} (h : Unjoined (c :: cs)) : Unjoined cs :=
  fun hjoined => h (List.infix_cons hjoined)

theorem unjoined_nil : Unjoined [] := fun hjoined => absurd hjoined.length_le (by decide)

theorem unjoined_cons_of_plain (c : Char) (h : ∀ d ∈ cs, d ≠ ':') : Unjoined (c :: cs) := by
  induction cs generalizing c with
  | nil => exact fun hjoined => absurd hjoined.length_le (Nat.not_succ_le_self 1)
  | cons d cs ih =>
    obtain ⟨hd, hcs⟩ := List.forall_mem_cons.mp h
    exact unjoined_cons_cons.mpr ⟨fun he => hd he.2, ih d hcs⟩

/-- What is left of a text once everything up to its last two colons in a row is cut off. -/
inductive AfterLast : List Char → List Char → Prop
  | whole {cs : List Char} (unjoined : Unjoined cs) : AfterLast cs cs
  | cut {part : List Char} (front : List Char) (unjoined : Unjoined (':' :: part)) :
      AfterLast (front ++ ':' :: ':' :: part) part

theorem AfterLast.unjoined (h : AfterLast cs part) : Unjoined part := by
  cases h with
  | whole unjoined => exact unjoined
  | cut _ unjoined => exact unjoined.of_cons

theorem AfterLast.suffix (h : AfterLast cs part) : part <:+ cs := by
  cases h with
  | whole => exact List.suffix_rfl
  | cut front => exact ⟨front ++ [':', ':'], by simp⟩

theorem AfterLast.length_le {other : List Char} (h : AfterLast cs part) (h' : AfterLast cs other) :
    other.length ≤ part.length := by
  cases h with
  | whole => exact h'.suffix.length_le
  | cut front unjoined =>
    generalize hcs : front ++ ':' :: ':' :: part = cs at h'
    have hpart : ':' :: ':' :: part <:+ cs := ⟨front, hcs⟩
    have hjoined : [':', ':'] <:+: ':' :: ':' :: part := ⟨[], part, rfl⟩
    cases h' with
    | whole unjoined' => exact absurd (hjoined.trans hpart.isInfix) unjoined'
    | cut front' unjoined' =>
      refine Nat.le_of_not_lt fun hlt => unjoined' ?_
      -- the longer rest, with the colon before it, has both colons before the shorter one
      have hother : ':' :: other <:+ front' ++ ':' :: ':' :: other := ⟨front' ++ [':'], by simp⟩
      exact hjoined.trans (List.suffix_of_suffix_length_le hpart hother (Nat.succ_le_succ hlt)).isInfix

/-- There is one place to cut at. -/
theorem AfterLast.unique {other : List Char} (h : AfterLast cs part) (h' : AfterLast cs other) :
    part = other := by
  have hlength : part.length = other.length := Nat.le_antisymm (h'.length_le h) (h.length_le h')
  exact (List.suffix_of_suffix_length_le h.suffix h'.suffix hlength.le).eq_of_length hlength

/-- What stands before a text that has been cut is cut off with it. -/
theorem AfterLast.append (h : AfterLast cs part) (hpart : Unjoined (':' :: part))
    (front : List Char) : AfterLast (front ++ ':' :: ':' :: cs) part := by
  cases h with
  | whole => exact .cut front hpart
  | cut more =>
    have hassoc : front ++ ':' :: ':' :: (more ++ ':' :: ':' :: part) =
      (front ++ ':' :: ':' :: more) ++ ':' :: ':' :: part := by simp
    exact hassoc ▸ .cut _ hpart

/-- Reading backwards never goes over two colons: what was read, with the next character before it, has
none. -/
theorem afterLast_readBackTo (seen cs : List Char) (hseen : Unjoined seen)
    (hnext : ∀ c ∈ cs.head?, Unjoined (c :: seen)) :
    AfterLast (cs.reverse ++ seen) (readBackTo seen cs) := by
  fun_induction readBackTo seen cs with
  | case1 seen rest =>
    have hassoc : (':' :: ':' :: rest).reverse ++ seen = rest.reverse ++ ':' :: ':' :: seen := by simp
    exact hassoc ▸ .cut _ (hnext ':' rfl)
  | case2 seen c rest hread ih =>
    have hassoc : (c :: rest).reverse ++ seen = rest.reverse ++ c :: seen := by simp
    rw [hassoc]
    refine ih (hnext c rfl) fun d hd => unjoined_cons_cons.mpr ⟨?_, hnext c rfl⟩
    rintro ⟨rfl, rfl⟩
    cases rest with
    | nil => cases hd
    | cons d rest =>
      cases hd
      exact hread rest rfl rfl
  | case3 seen => exact .whole hseen

theorem afterDoubleColon_eq_iff : afterDoubleColon cs = part ↔ AfterLast cs part := by
  have hcut : AfterLast cs (afterDoubleColon cs) := by
    have h := afterLast_readBackTo [] cs.reverse unjoined_nil fun c _ =>
      unjoined_cons_of_plain c (by simp)
    rwa [List.reverse_reverse, List.append_nil] at h
  constructor
  · rintro rfl
    exact hcut
  · exact hcut.unique

theorem short_eq_iff {full name : String} :
    short full = name ↔ AfterLast (full.toList.takeWhile (· ≠ '<')) name.toList := by
  rw [← afterDoubleColon_eq_iff, short, ← String.toList_inj, String.toList_ofList]

theorem short_short (full : String) : short (short full) = short full := by
  have hcut := short_eq_iff.mp (rfl : short full = short full)
  have hplain : (short full).toList.takeWhile (· ≠ '<') = (short full).toList :=
    List.takeWhile_eq_self_iff.mpr fun c hc => by
      have hread := List.mem_takeWhile_imp (hcut.suffix.subset hc)
      exact hread
  rw [short_eq_iff, hplain]
  exact .whole hcut.unjoined

/-- A tag has a separator, and what stands after the last one. -/
def Qualifies (tag part : String) : Prop :=
  ∃ front sep, tag.toList = front ++ sep :: part.toList ∧ isSeparator sep = true ∧
    ∀ c ∈ part.toList, isSeparator c = false

theorem Qualifies.part_ne {tag part : String} (h : Qualifies tag part) : part ≠ tag := by
  obtain ⟨front, sep, htag, -, -⟩ := h
  rintro rfl
  have hlength := congrArg List.length htag
  simp only [List.length_append, List.length_cons] at hlength
  omega

theorem Qualifies.lastPart_eq {tag part : String} (h : Qualifies tag part) : lastPart tag = part := by
  obtain ⟨front, sep, htag, hsep, hpart⟩ := h
  have hpart : ∀ c ∈ part.toList.reverse, (!isSeparator c) = true := fun c hc => by
    rw [hpart c (List.mem_reverse.mp hc), Bool.not_false]
  rw [lastPart, htag, ← String.toList_inj, String.toList_ofList, List.reverse_append,
    List.reverse_cons, List.append_assoc, List.takeWhile_append_of_pos hpart, List.singleton_append,
    List.takeWhile_cons_of_neg (by simp [hsep]), List.append_nil, List.reverse_reverse]

/-- A tag is its own last part, unless it has a separator. -/
theorem eq_or_qualifies_lastPart (tag : String) : lastPart tag = tag ∨ Qualifies tag (lastPart tag) := by
  let test : Char → Bool := fun c => !isSeparator c
  have hlast : (lastPart tag).toList = (tag.toList.reverse.takeWhile test).reverse :=
    String.toList_ofList
  have htag : tag.toList = (tag.toList.reverse.dropWhile test).reverse ++ (lastPart tag).toList := by
    rw [hlast, ← List.reverse_append, List.takeWhile_append_dropWhile, List.reverse_reverse]
  have hstop := List.head?_dropWhile_not test tag.toList.reverse
  cases hdrop : tag.toList.reverse.dropWhile test with
  | nil =>
    rw [hdrop, List.reverse_nil, List.nil_append] at htag
    exact .inl (String.toList_inj.mp htag.symm)
  | cons sep front =>
    rw [hdrop] at htag hstop
    refine .inr ⟨front.reverse, sep, by simpa using htag, by simpa [test] using hstop, ?_⟩
    intro c hc
    rw [hlast, List.mem_reverse] at hc
    simpa [test] using List.mem_takeWhile_imp hc

end TypeName

/-- A name in a path: not empty, and without the signs that names are cut at. -/
structure Segment where
  text : String
  ne_empty : text ≠ ""
  plain : ∀ c ∈ text.toList, c ≠ '.' ∧ c ≠ ':' ∧ c ≠ '<'

/-- The place of a type: its own name, behind the names of what it stands in, from the outside in. -/
structure TypePath where
  outer : List Segment
  last : Segment

namespace TypePath

open TypedBus.TypeName

/-- The names, with two colons between any two of them. -/
def text (path : TypePath) : String :=
  "::".intercalate ((path.outer ++ [path.last]).map (·.text))

/-- The name of a type with the path in front and its type arguments behind, if it has any. -/
def fullName (path : TypePath) : Option String → String
  | none => path.text
  | some args => path.text ++ "<" ++ args

theorem text_nil (last : Segment) : (TypePath.mk [] last).text = last.text := by
  simp [text]

theorem toList_text_cons (s : Segment) (outer : List Segment) (last : Segment) :
    (TypePath.mk (s :: outer) last).text.toList =
      s.text.toList ++ ':' :: ':' :: (TypePath.mk outer last).text.toList := by
  have hne : ((outer ++ [last]).map (·.text)).map String.toList ≠ [] := by simp
  simp only [text, String.toList_intercalate, List.cons_append, List.map_cons,
    List.intercalate_cons_of_ne_nil hne, List.append_assoc]
  rfl

theorem unjoined_cons_last (c : Char) (last : Segment) : Unjoined (c :: last.text.toList) :=
  unjoined_cons_of_plain c fun d hd => (last.plain d hd).2.1

/-- The last two colons of a path stand before its last name. -/
theorem afterLast_text (outer : List Segment) (last : Segment) :
    AfterLast (TypePath.mk outer last).text.toList last.text.toList := by
  induction outer with
  | nil =>
    rw [text_nil]
    exact .whole (unjoined_cons_last ':' last).of_cons
  | cons s outer ih =>
    rw [toList_text_cons]
    exact ih.append (unjoined_cons_last ':' last) s.text.toList

theorem ne_angle_of_mem_text (outer : List Segment) (last : Segment) :
    ∀ c ∈ (TypePath.mk outer last).text.toList, c ≠ '<' := by
  induction outer with
  | nil =>
    rw [text_nil]
    exact fun c hc => (last.plain c hc).2.2
  | cons s outer ih =>
    intro c hc
    rw [toList_text_cons, List.mem_append, List.mem_cons, List.mem_cons] at hc
    rcases hc with hc | rfl | rfl | hc
    · exact (s.plain c hc).2.2
    · decide
    · decide
    · exact ih c hc

/-- Type arguments begin where the path ends, whatever stands in them. -/
theorem takeWhile_fullName (path : TypePath) (args : Option String) :
    (path.fullName args).toList.takeWhile (· ≠ '<') = path.text.toList := by
  have hplain : ∀ c ∈ path.text.toList, decide (c ≠ '<') = true := fun c hc =>
    decide_eq_true (ne_angle_of_mem_text path.outer path.last c hc)
  cases args with
  | none => exact List.takeWhile_eq_self_iff.mpr hplain
  | some args =>
    rw [fullName, String.append_assoc, String.toList_append,
      List.takeWhile_append_of_pos hplain, String.toList_append]
    exact List.append_nil _

/-- The short name of a type is the last of its path. -/
theorem short_fullName (path : TypePath) (args : Option String) :
    short (path.fullName args) = path.last.text := by
  rw [short_eq_iff, takeWhile_fullName]
  exact afterLast_text path.outer path.last

/-- A path of more than one name is a tag whose last part is the last of them. -/
theorem eq_or_qualifies (path : TypePath) :
    path.text = path.last.text ∨ Qualifies path.text path.last.text := by
  have hplain : ∀ c ∈ path.last.text.toList, isSeparator c = false := fun c hc => by
    obtain ⟨hdot, hcolon, -⟩ := path.last.plain c hc
    simp [isSeparator, hdot, hcolon]
  have hcut := afterLast_text path.outer path.last
  generalize hlast : path.last.text.toList = part at hcut hplain
  generalize htext : path.text.toList = cs at hcut
  cases hcut with
  | whole => exact .inl (String.toList_inj.mp (htext.trans hlast.symm))
  | cut front =>
    subst hlast
    exact .inr ⟨front ++ [':'], ':', by simp [htext], rfl, hplain⟩

theorem text_ne_empty (path : TypePath) : path.text ≠ "" := by
  intro h
  have hsuffix := (afterLast_text path.outer path.last).suffix
  rw [h] at hsuffix
  exact path.last.ne_empty (String.toList_inj.mp (List.suffix_nil.mp hsuffix))

end TypePath

end TypedBus
