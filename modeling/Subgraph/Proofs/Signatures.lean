import Mathlib.Data.List.Forall2
import Subgraph.Ethereum.Abi
import Subgraph.Proofs.Tidy

/-!
# Signatures — no two functions are written alike

The signature of a function writes its types without spaces, the components of a tuple between
brackets.  It can be taken apart again: the type of a parameter ends where the next comma or bracket
stands, and the name of the function ends at the bracket that matches the last one before the colon.

* `IsTyped`: parameters whose types are elementary names or tuples, with array groups behind them.
* `SameType`: two parameters of one type, whatever their names are.
* `Param.IsTyped.isNested`: the brackets of a written type match each other, and it has no colon.
* `Param.IsTyped.cancels`, `canonicalList_cancel`: a written type, and a list of them, ends where it
  ends in any text.
* `signature_eq_iff`: two functions have one signature just when they have one name and the same
  types.
-/

namespace Subgraph.Ethereum

open Layout Text

/-! ### Types -/

/-- A name as the elementary types have them: letters and digits, with another beginning than that
of tuples. -/
structure IsTypeName (name : List Char) : Prop where
  any : name ≠ []
  alphanumeric : ∀ c ∈ name, c.isAlphanum = true
  start : ¬ "tuple".toList <+: name

instance (name : List Char) : Decidable (IsTypeName name) :=
  decidable_of_iff
    (name ≠ [] ∧ name.all Char.isAlphanum = true ∧ ¬ "tuple".toList <+: name)
    ⟨fun ⟨any, all, start⟩ => ⟨any, List.all_eq_true.mp all, start⟩,
      fun ⟨any, alphanumeric, start⟩ => ⟨any, List.all_eq_true.mpr alphanumeric, start⟩⟩

example : ∀ name ∈ ["address", "bool", "string", "bytes", "bytes32", "int", "uint", "int8",
    "uint256", "fixed128x18", "ufixed", "function"], IsTypeName name.toList := by decide

/-- Array groups, each with a number of elements or without one. -/
inductive AreGroups : List Char → Prop
  | nil : AreGroups []
  | cons {digits groups : List Char} (number : ∀ d ∈ digits, d.isDigit = true)
      (others : AreGroups groups) : AreGroups ('[' :: (digits ++ ']' :: groups))

namespace Param

/-- The type of a parameter is elementary, or that of a tuple with such components, or an array
of these. -/
inductive IsTyped : Param → Prop
  | elementary {name type : String} {base groups : List Char} {components : List Param}
      (split : type.toList = base ++ groups) (isName : IsTypeName base)
      (areGroups : AreGroups groups) : IsTyped (.mk name type components)
  | tuple {name type : String} {groups : List Char} {components : List Param}
      (split : type.toList = "tuple".toList ++ groups) (areGroups : AreGroups groups)
      (typed : ∀ c ∈ components, IsTyped c) : IsTyped (.mk name type components)

end Param

/-- The names of one elementary type: an integer of the default size has two. -/
def SameName (x y : List Char) : Prop :=
  x = y ∨ (x ∈ ["uint".toList, "uint256".toList] ∧ y ∈ ["uint".toList, "uint256".toList]) ∨
    (x ∈ ["int".toList, "int256".toList] ∧ y ∈ ["int".toList, "int256".toList])

namespace Param

/-- Two parameters have the same type.  Their names do not matter, and neither do components beside
an elementary type, which has none. -/
inductive SameType : Param → Param → Prop
  | elementary {n m s t : String} {x y groups : List Char} {cs ds : List Param}
      (left : s.toList = x ++ groups) (right : t.toList = y ++ groups)
      (isName : IsTypeName x) (areGroups : AreGroups groups) (same : SameName x y) :
      SameType (.mk n s cs) (.mk m t ds)
  | tuple {n m type : String} {groups : List Char} {cs ds : List Param}
      (split : type.toList = "tuple".toList ++ groups) (areGroups : AreGroups groups)
      (same : List.Forall₂ SameType cs ds) : SameType (.mk n type cs) (.mk m type ds)

end Param

/-! ### Characters of written types -/

section

variable {P : Char → Bool} {x y r s : List Char}

theorem takeWhile_append_of_head (hx : ∀ c ∈ x, P c = true)
    (hr : ∀ c, r.head? = some c → P c = false) : (x ++ r).takeWhile P = x := by
  rw [List.takeWhile_append_of_pos hx]
  rcases r with _ | ⟨c, r⟩
  · exact List.append_nil x
  · rw [List.takeWhile_cons_of_neg (by rw [hr c rfl]; exact Bool.false_ne_true), List.append_nil]

/-- Two beginnings of one text are the same if both end where a class of characters does. -/
theorem eq_of_append_eq (hx : ∀ c ∈ x, P c = true) (hy : ∀ c ∈ y, P c = true)
    (hr : ∀ c, r.head? = some c → P c = false) (hs : ∀ c, s.head? = some c → P c = false)
    (h : x ++ r = y ++ s) : x = y ∧ r = s := by
  have same : x = y := by
    rw [← takeWhile_append_of_head hx hr, h, takeWhile_append_of_head hy hs]
  subst same
  exact ⟨rfl, List.append_cancel_left h⟩

/-- Two texts are the same around their last colon. -/
theorem eq_of_append_colon (hr : ':' ∉ r) (hs : ':' ∉ s) (h : x ++ ':' :: r = y ++ ':' :: s) :
    x = y ∧ r = s := by
  have other {t : List Char} (ht : ':' ∉ t) : ∀ c ∈ t.reverse, (c != ':') = true :=
    fun c hc => bne_iff_ne.mpr fun same => ht (same ▸ List.mem_reverse.mp hc)
  have colon (t : List Char) : ∀ c, (':' :: t).head? = some c → (c != ':') = false := by
    rintro c ⟨⟩
    rfl
  have back := congrArg List.reverse h
  rw [List.reverse_append, List.reverse_append, List.reverse_cons, List.reverse_cons,
    List.append_assoc, List.append_assoc] at back
  obtain ⟨rest, before⟩ := eq_of_append_eq (other hr) (other hs) (colon _) (colon _) back
  exact ⟨List.reverse_inj.mp (List.tail_eq_of_cons_eq before), List.reverse_inj.mp rest⟩

end

/-- A character of a written type that is no tuple, or of array groups. -/
def isTypeChar (c : Char) : Bool := c.isAlphanum || c == '[' || c == ']'

theorem isTypeChar_of_isAlphanum {c : Char} (h : c.isAlphanum = true) : isTypeChar c = true := by
  rw [isTypeChar, h]
  rfl

theorem isAlphanum_of_isDigit {c : Char} (h : c.isDigit = true) : c.isAlphanum = true := by
  rw [Char.isAlphanum, h, Bool.or_true]

theorem AreGroups.isTypeChar_of_mem {groups : List Char} (h : AreGroups groups) :
    ∀ c ∈ groups, isTypeChar c = true := by
  induction h with
  | nil => exact nofun
  | cons number _ ih =>
      refine List.forall_mem_cons.mpr ⟨rfl, List.forall_mem_append.mpr ⟨fun d hd => ?_, ?_⟩⟩
      · exact isTypeChar_of_isAlphanum (isAlphanum_of_isDigit (number d hd))
      · exact List.forall_mem_cons.mpr ⟨rfl, ih⟩

theorem AreGroups.head {groups : List Char} (h : AreGroups groups) :
    ∀ c, groups.head? = some c → c = '[' := by
  cases h with
  | nil => exact nofun
  | cons => exact fun c hc => (Option.some.inj hc).symm

theorem AreGroups.head_isAlphanum {groups : List Char} (h : AreGroups groups) :
    ∀ c, groups.head? = some c → c.isAlphanum = false := by
  intro c hc
  rw [h.head c hc]
  rfl

/-! ### Names of elementary types -/

/-- The full name of an elementary type. -/
def fullName (name : List Char) : List Char :=
  if name = "uint".toList then "uint256".toList
  else if name = "int".toList then "int256".toList
  else name

theorem fullName_eq_iff {x y : List Char} : fullName x = fullName y ↔ SameName x y := by
  have apart : ["uint".toList, "uint256".toList, "int".toList, "int256".toList].Nodup := by decide
  unfold fullName SameName
  generalize "uint".toList = u at apart ⊢
  generalize "uint256".toList = u' at apart ⊢
  generalize "int".toList = i at apart ⊢
  generalize "int256".toList = i' at apart ⊢
  simp only [List.nodup_cons, List.mem_cons, List.not_mem_nil, or_false, not_or] at apart ⊢
  grind

section

variable {name type : String} {base groups : List Char} {components : List Param}

theorem IsTypeName.not_tuple (h : IsTypeName base) (areGroups : AreGroups groups)
    (rest : List Char) : base ++ groups ≠ "tuple".toList ++ rest := by
  intro same
  have word : (base ++ groups).takeWhile Char.isAlphanum = base :=
    takeWhile_append_of_head h.alphanumeric areGroups.head_isAlphanum
  rw [same, List.takeWhile_append_of_pos (List.all_eq_true.mp rfl)] at word
  exact h.start (word ▸ List.prefix_append _ _)

theorem IsTypeName.ne_bracket (h : IsTypeName base) (rest rest' : List Char) :
    base ++ rest ≠ '(' :: rest' := by
  intro same
  obtain ⟨c, cs, rfl⟩ := List.exists_cons_of_ne_nil h.any
  rw [List.cons_append, List.cons.injEq] at same
  have letter := h.alphanumeric c List.mem_cons_self
  rw [same.1] at letter
  exact absurd letter (by decide)

theorem IsTypeName.fullName (h : IsTypeName base) : IsTypeName (fullName base) := by
  unfold Ethereum.fullName
  split
  · decide
  · split
    · decide
    · exact h

theorem toList_fullTypeName (split : type.toList = base ++ groups) (h : IsTypeName base)
    (areGroups : AreGroups groups) : (fullTypeName type).toList = fullName base ++ groups := by
  have word : type.toList.takeWhile (· != '[') = base := by
    rw [split]
    refine takeWhile_append_of_head (fun c hc => bne_iff_ne.mpr ?_) fun c hc => ?_
    · rintro rfl
      exact absurd (h.alphanumeric _ hc) (by decide)
    · rw [areGroups.head c hc]
      rfl
  have rest : type.toList.dropWhile (· != '[') = groups := by
    have whole := List.takeWhile_append_dropWhile (p := (· != '[')) (l := type.toList)
    rw [word] at whole
    exact List.append_cancel_left (whole.trans split)
  unfold fullTypeName Ethereum.fullName
  dsimp only
  rw [word, rest]
  split
  · rw [String.toList_append, String.toList_ofList (l := groups)]
  · split
    · rw [String.toList_append, String.toList_ofList (l := groups)]
    · assumption

theorem canonical_elementary (split : type.toList = base ++ groups) (h : IsTypeName base)
    (areGroups : AreGroups groups) :
    (Param.mk name type components).canonical.toList = fullName base ++ groups := by
  have none : tupleGroups? type = none := by
    refine if_neg fun start => ?_
    obtain ⟨rest, same⟩ := List.isPrefixOf_iff_prefix.mp start
    exact h.not_tuple areGroups rest (split.symm.trans same.symm)
  rw [Param.canonical, canonicalWith, none]
  exact toList_fullTypeName split h areGroups

theorem canonical_tuple (split : type.toList = "tuple".toList ++ groups) :
    (Param.mk name type components).canonical.toList =
      '(' :: ((canonicalList components).toList ++ ')' :: groups) := by
  have some : tupleGroups? type = some (String.ofList groups) := by
    rw [tupleGroups?, split]
    rfl
  rw [Param.canonical, canonicalWith, some]
  simp [String.toList_append]

end

/-! ### Written types -/

/-- A text without colons whose brackets match each other. -/
structure IsNested (text : List Char) : Prop where
  colon : ':' ∉ text
  balanced : Balanced (text.filterMap bracket?)

namespace IsNested

variable {s t : List Char}

theorem nil : IsNested [] := ⟨List.not_mem_nil, balanced_nil⟩

theorem append (hs : IsNested s) (ht : IsNested t) : IsNested (s ++ t) := by
  refine ⟨List.mem_append.not.mpr (not_or.mpr ⟨hs.colon, ht.colon⟩), ?_⟩
  rw [List.filterMap_append]
  exact hs.balanced.append ht.balanced

theorem of_plain (h : ∀ c ∈ t, c ≠ ':' ∧ bracket? c = none) : IsNested t := by
  refine ⟨fun hc => (h _ hc).1 rfl, ?_⟩
  rw [List.filterMap_eq_nil_iff.mpr fun c hc => (h c hc).2]
  exact balanced_nil

theorem of_isAlphanum (h : ∀ c ∈ t, c.isAlphanum = true) : IsNested t := by
  refine of_plain fun c hc => ⟨?_, (marks_of_isWordChar ?_).2⟩
  · rintro rfl
    exact absurd (h _ hc) (by decide)
  · rw [isWordChar, h c hc]
    rfl

theorem enclose (ht : IsNested t) {o c : Char} (ho : bracket? o = some .opening ∧ o ≠ ':')
    (hc : bracket? c = some .closing ∧ c ≠ ':') : IsNested (o :: (t ++ [c])) := by
  refine ⟨?_, ?_⟩
  · rw [List.mem_cons, List.mem_append, List.mem_singleton]
    rintro (same | inside | same)
    · exact ho.2 same.symm
    · exact ht.colon inside
    · exact hc.2 same.symm
  · have ends : Balanced ([.opening] ++ [.closing]) := by decide
    have text : (o :: (t ++ [c])).filterMap bracket? =
        [.opening] ++ t.filterMap bracket? ++ [.closing] := by
      simp [ho.1, hc.1]
    rw [text]
    exact ends.insert ht.balanced

/-- **A bracket with a nested text behind it has no part in another one.** -/
theorem no_start (ht : IsNested t) (hs : IsNested s) (before : List Char) :
    t ≠ before ++ '(' :: s := by
  rintro rfl
  have balanced := ht.balanced
  rw [List.filterMap_append, List.filterMap_cons_some (rfl : bracket? '(' = some .opening),
    Layout.Balanced, depth_append] at balanced
  -- whatever is open before it, the bracket stays open
  rcases hd : depth (before.filterMap bracket?) 0 with _ | n
  · rw [hd] at balanced
    cases balanced
  · rw [hd, Option.bind_some, depth, hs.balanced.depth] at balanced
    cases balanced

/-- What stands before a bracket with a nested text behind it, is determined. -/
theorem cancel (ht : IsNested t) (hs : IsNested s) {a b : List Char}
    (h : a ++ '(' :: t = b ++ '(' :: s) : a = b ∧ t = s := by
  rcases List.append_eq_append_iff.mp h with ⟨more, rfl, rest⟩ | ⟨more, rfl, rest⟩
  · rcases more with _ | ⟨c, more⟩
    · exact ⟨(List.append_nil a).symm, List.tail_eq_of_cons_eq rest⟩
    · exact absurd (List.tail_eq_of_cons_eq rest) (ht.no_start hs more)
  · rcases more with _ | ⟨c, more⟩
    · exact ⟨List.append_nil b, (List.tail_eq_of_cons_eq rest).symm⟩
    · exact absurd (List.tail_eq_of_cons_eq rest) (hs.no_start ht more)

end IsNested

theorem AreGroups.isNested {groups : List Char} (h : AreGroups groups) : IsNested groups := by
  induction h with
  | nil => exact .nil
  | @cons digits groups number _ ih =>
      have one : IsNested ('[' :: (digits ++ [']'])) :=
        (IsNested.of_isAlphanum fun d hd => isAlphanum_of_isDigit (number d hd)).enclose
          (by decide) (by decide)
      have whole := one.append ih
      rwa [List.cons_append, List.append_assoc, List.singleton_append] at whole

/-- The list of the types of parameters, with what follows the first of them. -/
theorem toList_canonicalList_cons (p : Param) (ps : List Param) :
    (canonicalList (p :: ps)).toList = p.canonical.toList ++
      if ps = [] then [] else ',' :: (canonicalList ps).toList := by
  cases ps with
  | nil => rw [if_pos rfl, List.append_nil, canonicalList]
  | cons q ps =>
      rw [canonicalList, if_neg (List.cons_ne_nil _ _)]
      simp [String.toList_append]

theorem isNested_canonicalList {ps : List Param} (h : ∀ p ∈ ps, IsNested p.canonical.toList) :
    IsNested (canonicalList ps).toList := by
  induction ps with
  | nil => exact .nil
  | cons p ps ih =>
      obtain ⟨first, others⟩ := List.forall_mem_cons.mp h
      rw [toList_canonicalList_cons]
      refine first.append ?_
      split
      · exact .nil
      · exact IsNested.append (s := [',']) (.of_plain (List.forall_mem_singleton.mpr (by decide)))
          (ih others)

/-- **A written type is nested.** -/
theorem Param.IsTyped.isNested {p : Param} (h : p.IsTyped) : IsNested p.canonical.toList := by
  induction h with
  | elementary split isName areGroups =>
      rw [canonical_elementary split isName areGroups]
      exact (IsNested.of_isAlphanum isName.fullName.alphanumeric).append areGroups.isNested
  | tuple split areGroups _ ih =>
      have whole := ((isNested_canonicalList ih).enclose (o := '(') (c := ')') (by decide)
        (by decide)).append areGroups.isNested
      rw [canonical_tuple split]
      rwa [List.cons_append, List.append_assoc, List.singleton_append] at whole

/-! ### Where a written type ends -/

/-- No character of an elementary type, or of array groups, comes next. -/
def Ends (rest : List Char) : Prop := ∀ c, rest.head? = some c → isTypeChar c = false

theorem ends_cons {c : Char} (h : isTypeChar c = false) (rest : List Char) : Ends (c :: rest) := by
  rintro d ⟨⟩
  exact h

variable {r s : List Char}

theorem AreGroups.cancel {groups groups' : List Char} (h : AreGroups groups)
    (h' : AreGroups groups') (hr : Ends r) (hs : Ends s)
    (same : groups ++ r = groups' ++ s) : groups = groups' ∧ r = s :=
  eq_of_append_eq h.isTypeChar_of_mem h'.isTypeChar_of_mem hr hs same

/-- The array groups behind a name are not taken for a part of it. -/
theorem AreGroups.ends_word {groups : List Char} (h : AreGroups groups) (hr : Ends r) :
    ∀ c, (groups ++ r).head? = some c → c.isAlphanum = false := by
  intro c hc
  rw [List.head?_append] at hc
  rcases hg : groups.head? with _ | d
  · rw [hg, Option.none_or] at hc
    have other := hr c hc
    rw [isTypeChar, Bool.or_eq_false_iff, Bool.or_eq_false_iff] at other
    exact other.1.1
  · rw [hg, Option.some_or] at hc
    cases hc
    exact h.head_isAlphanum c hg

namespace Param

/-- The text of the type is found at the start of any text that it begins: another type is there
only if it is the same. -/
def Cancels (p : Param) : Prop := ∀ q : Param, q.IsTyped → ∀ r s, Ends r → Ends s →
  p.canonical.toList ++ r = q.canonical.toList ++ s → p.SameType q ∧ r = s

/-- A written type begins like a name or a tuple. -/
theorem IsTyped.head {p : Param} (h : p.IsTyped) :
    ∃ c rest, p.canonical.toList = c :: rest ∧ (c = '(' ∨ c.isAlphanum = true) := by
  cases h with
  | elementary split isName areGroups =>
      obtain ⟨c, word, hw⟩ := List.exists_cons_of_ne_nil isName.fullName.any
      refine ⟨c, _, by rw [canonical_elementary split isName areGroups, hw]; rfl, .inr ?_⟩
      exact isName.fullName.alphanumeric c (hw ▸ List.mem_cons_self)
  | tuple split => exact ⟨'(', _, canonical_tuple split, .inl rfl⟩

end Param

/-- What stands behind the first type of a list that a bracket closes. -/
def behind (ps : List Param) (rest : List Char) : List Char :=
  if ps = [] then ')' :: rest else ',' :: ((canonicalList ps).toList ++ ')' :: rest)

theorem ends_behind (ps : List Param) (rest : List Char) : Ends (behind ps rest) := by
  unfold behind
  split
  · exact ends_cons (by decide) _
  · exact ends_cons (by decide) _

theorem canonicalList_cons_append (p : Param) (ps : List Param) (rest : List Char) :
    (canonicalList (p :: ps)).toList ++ ')' :: rest = p.canonical.toList ++ behind ps rest := by
  rw [toList_canonicalList_cons, behind]
  split
  · rw [List.append_nil]
  · rw [List.append_assoc, List.cons_append]

/-- A list of types that is not empty does not begin with the bracket that closes it. -/
theorem canonicalList_cons_ne {p : Param} (h : p.IsTyped) (ps : List Param)
    (rest rest' : List Char) :
    (canonicalList (p :: ps)).toList ++ ')' :: rest ≠ ')' :: rest' := by
  intro same
  obtain ⟨c, cs, text, first⟩ := h.head
  rw [canonicalList_cons_append, text, List.cons_append, List.cons.injEq] at same
  rcases first with rfl | word
  · exact absurd same.1 (by decide)
  · rw [same.1] at word
    exact absurd word (by decide)

/-- **A list of written types ends at its bracket.** -/
theorem canonicalList_cancel {ps qs : List Param} (hp : ∀ p ∈ ps, p.IsTyped ∧ p.Cancels)
    (hq : ∀ q ∈ qs, q.IsTyped)
    (h : (canonicalList ps).toList ++ ')' :: r = (canonicalList qs).toList ++ ')' :: s) :
    List.Forall₂ Param.SameType ps qs ∧ r = s := by
  induction ps generalizing qs with
  | nil =>
      cases qs with
      | nil => exact ⟨.nil, List.tail_eq_of_cons_eq h⟩
      | cons q qs =>
          exact absurd h.symm (canonicalList_cons_ne (hq q List.mem_cons_self) qs s r)
  | cons p ps ih =>
      obtain ⟨⟨typed, cancels⟩, hps⟩ := List.forall_mem_cons.mp hp
      cases qs with
      | nil => exact absurd h (canonicalList_cons_ne typed ps r s)
      | cons q qs =>
          obtain ⟨typed', hqs⟩ := List.forall_mem_cons.mp hq
          rw [canonicalList_cons_append, canonicalList_cons_append] at h
          obtain ⟨first, rest⟩ := cancels q typed' _ _ (ends_behind ps r) (ends_behind qs s) h
          -- both lists go on behind a comma, or both end
          unfold behind at rest
          split at rest <;> split at rest
          · next none none' =>
              subst none none'
              exact ⟨.cons first .nil, List.tail_eq_of_cons_eq rest⟩
          · cases rest
          · cases rest
          · obtain ⟨others, same⟩ := ih hps hqs (List.tail_eq_of_cons_eq rest)
            exact ⟨.cons first others, same⟩

/-- **A written type ends where it ends in any text.** -/
theorem Param.IsTyped.cancels {p : Param} (h : p.IsTyped) : p.Cancels := by
  induction h with
  | @elementary name type base groups components split isName areGroups =>
      intro q hq r s hr hs same
      rw [canonical_elementary split isName areGroups, List.append_assoc] at same
      cases hq with
      | elementary split' isName' areGroups' =>
          rw [canonical_elementary split' isName' areGroups', List.append_assoc] at same
          obtain ⟨names, rest⟩ := eq_of_append_eq isName.fullName.alphanumeric
            isName'.fullName.alphanumeric (areGroups.ends_word hr) (areGroups'.ends_word hs) same
          obtain ⟨rfl, rfl⟩ := areGroups.cancel areGroups' hr hs rest
          exact ⟨.elementary split split' isName areGroups (fullName_eq_iff.mp names), rfl⟩
      | tuple split' =>
          rw [canonical_tuple split', List.cons_append] at same
          exact absurd same (isName.fullName.ne_bracket _ _)
  | @tuple name type groups components split areGroups typed ih =>
      intro q hq r s hr hs same
      rw [canonical_tuple split] at same
      cases hq with
      | elementary split' isName' areGroups' =>
          rw [canonical_elementary split' isName' areGroups', List.cons_append,
            List.append_assoc _ _ s] at same
          exact absurd same.symm (isName'.fullName.ne_bracket _ _)
      | tuple split' areGroups' typed' =>
          rw [canonical_tuple split'] at same
          simp only [List.cons_append, List.append_assoc, List.cons.injEq, true_and] at same
          obtain ⟨fields, rest⟩ :=
            canonicalList_cancel (fun c hc => ⟨typed c hc, ih c hc⟩) typed' same
          obtain ⟨rfl, rfl⟩ := areGroups.cancel areGroups' hr hs rest
          obtain rfl := String.toList_inj.mp (split.trans split'.symm)
          exact ⟨.tuple split areGroups fields, rfl⟩

/-! ### Types that are written alike -/

theorem SameName.isTypeName {x y : List Char} (same : SameName x y) (h : IsTypeName x) :
    IsTypeName y := by
  rcases same with rfl | ⟨-, hy⟩ | ⟨-, hy⟩
  · exact h
  · rcases List.mem_pair.mp hy with rfl | rfl <;> decide
  · rcases List.mem_pair.mp hy with rfl | rfl <;> decide

theorem canonicalList_congr {ps qs : List Param}
    (h : List.Forall₂ (fun p q => p.canonical = q.canonical) ps qs) :
    canonicalList ps = canonicalList qs := by
  induction h with
  | nil => rfl
  | @cons p q ps qs first others ih =>
      cases others with
      | nil => rw [canonicalList, canonicalList, first]
      | cons _ _ => rw [canonicalList, canonicalList, first, ih]

namespace Param

/-- Parameters of the same type have it written alike. -/
theorem IsTyped.canonical_eq {p : Param} (h : p.IsTyped) :
    ∀ {q : Param}, p.SameType q → p.canonical = q.canonical := by
  induction h with
  | @elementary name type base groups components split isName areGroups =>
      intro q same
      cases same with
      | elementary left right isName areGroups same =>
          apply String.toList_inj.mp
          rw [canonical_elementary left isName areGroups,
            canonical_elementary right (same.isTypeName isName) areGroups, fullName_eq_iff.mpr same]
      | tuple split' => exact absurd (split.symm.trans split') (isName.not_tuple areGroups _)
  | @tuple name type groups components split areGroups typed ih =>
      intro q same
      cases same with
      | elementary left right isName areGroups same =>
          exact absurd (left.symm.trans split) (isName.not_tuple areGroups _)
      | @tuple _ m _ _ _ ds split' areGroups' same =>
          have fields := (List.forall₂_and_left components ds).mpr ⟨fun c hc => @ih c hc, same⟩
          have text := canonicalList_congr (fields.imp fun _ _ h => h.1 h.2)
          rw [canonical, canonical, text]

end Param

/-! ### Signatures -/

/-- All parameters of a function, inputs and outputs, are typed. -/
def Function.IsTyped (f : Function) : Prop := ∀ p ∈ f.inputs ++ f.outputs, p.IsTyped

theorem Function.toList_signature (f : Function) : f.signature.toList =
    ((f.name.toList ++ '(' :: (canonicalList f.inputs).toList) ++ [')']) ++
      ':' :: ('(' :: ((canonicalList f.outputs).toList ++ [')'])) := by
  simp [Function.signature, String.toList_append]

/-- The texts of lists of types that brackets close are the same just when the types are. -/
theorem canonicalList_eq_iff {ps qs : List Param} (hp : ∀ p ∈ ps, p.IsTyped)
    (hq : ∀ q ∈ qs, q.IsTyped) :
    canonicalList ps = canonicalList qs ↔ List.Forall₂ Param.SameType ps qs := by
  constructor
  · intro h
    exact (canonicalList_cancel (fun p m => ⟨hp p m, (hp p m).cancels⟩) hq
      (congrArg (fun text => text.toList ++ [')']) h)).1
  · intro same
    have typed := (List.forall₂_and_left ps qs).mpr ⟨hp, same⟩
    exact canonicalList_congr (typed.imp fun _ _ h => h.1.canonical_eq h.2)

theorem isNested_of_isTyped {ps : List Param} (h : ∀ p ∈ ps, p.IsTyped) :
    IsNested (canonicalList ps).toList :=
  isNested_canonicalList fun p hp => (h p hp).isNested

/-- **Two functions have one signature just when they have one name and the same types,** position
by position and component by component.

So two overloads with different inputs never share a signature. -/
theorem signature_eq_iff {f g : Function} (hf : f.IsTyped) (hg : g.IsTyped) :
    f.signature = g.signature ↔ f.name = g.name ∧
      List.Forall₂ Param.SameType f.inputs g.inputs ∧
      List.Forall₂ Param.SameType f.outputs g.outputs := by
  obtain ⟨fi, fo⟩ := List.forall_mem_append.mp hf
  obtain ⟨gi, go⟩ := List.forall_mem_append.mp hg
  rw [← canonicalList_eq_iff fi gi, ← canonicalList_eq_iff fo go]
  constructor
  · intro h
    have enclosed {ps : List Param} (hp : ∀ p ∈ ps, p.IsTyped) :
        IsNested ('(' :: ((canonicalList ps).toList ++ [')'])) :=
      (isNested_of_isTyped hp).enclose (by decide) (by decide)
    have text := congrArg String.toList h
    rw [f.toList_signature, g.toList_signature] at text
    -- the outputs stand behind the last colon
    obtain ⟨front, outputs⟩ := eq_of_append_colon (enclosed fo).colon (enclosed go).colon text
    -- the bracket behind the name is the one that the last bracket before the colon closes
    obtain ⟨name, inputs⟩ := (isNested_of_isTyped fi).cancel (isNested_of_isTyped gi)
      (List.append_cancel_right front)
    exact ⟨String.toList_inj.mp name, String.toList_inj.mp inputs,
      String.toList_inj.mp (List.append_cancel_right (List.tail_eq_of_cons_eq outputs))⟩
  · rintro ⟨name, inputs, outputs⟩
    rw [Function.signature, name, inputs, outputs]
    rfl

/-- A function of an array of tuples, which hold an integer and a tuple without components, and of
an array of arrays of integers. -/
def swap (unsigned signed : String) : Function where
  name := "swap"
  inputs := [.mk "pairs" "tuple[2]" [.mk "amount" unsigned [], .mk unsigned "tuple" []]]
  outputs := [.mk signed (signed ++ "[][3]") []]
  mutability := .view

theorem isTyped_swap {unsigned signed : String} (hu : IsTypeName unsigned.toList)
    (hs : IsTypeName signed.toList) : (swap unsigned signed).IsTyped := by
  have two : AreGroups "[2]".toList := @AreGroups.cons ['2'] [] (List.forall_mem_singleton.mpr rfl) .nil
  have three : AreGroups "[][3]".toList :=
    @AreGroups.cons [] _ nofun
      (@AreGroups.cons ['3'] [] (List.forall_mem_singleton.mpr rfl) .nil)
  have amount : (Param.mk "amount" unsigned []).IsTyped :=
    .elementary (List.append_nil _).symm hu .nil
  have empty : (Param.mk unsigned "tuple" []).IsTyped :=
    @Param.IsTyped.tuple _ _ [] _ rfl .nil nofun
  refine List.forall_mem_cons.mpr ⟨@Param.IsTyped.tuple _ _ _ _ rfl two ?_, ?_⟩
  · exact List.forall_mem_cons.mpr ⟨amount, List.forall_mem_singleton.mpr empty⟩
  · exact List.forall_mem_singleton.mpr (.elementary String.toList_append hs three)

/-- The two names of an integer type are one type. -/
theorem signature_eq_iff_swap : (swap "uint" "int").IsTyped ∧ (swap "uint256" "int256").IsTyped ∧
    (swap "uint" "int").signature = (swap "uint256" "int256").signature ∧
    List.Forall₂ Param.SameType (swap "uint" "int").inputs (swap "uint256" "int256").inputs ∧
    List.Forall₂ Param.SameType (swap "uint" "int").outputs (swap "uint256" "int256").outputs := by
  have short : (swap "uint" "int").IsTyped := isTyped_swap (by decide) (by decide)
  have long : (swap "uint256" "int256").IsTyped := isTyped_swap (by decide) (by decide)
  have same : (swap "uint" "int").signature = (swap "uint256" "int256").signature := by
    decide +kernel
  exact ⟨short, long, same, ((signature_eq_iff short long).mp same).2⟩

end Subgraph.Ethereum
