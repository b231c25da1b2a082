import Subgraph.Generated.Module
import Subgraph.Text.Pieces

/-!
# Layout — which sources can be laid out

The layout of a source fails over its brackets only.  Whether it does depends on the brackets of the
lines one after the other, not on the lines they stand in.

* `depth`: how many brackets are open after some, or that one closes nothing.
* `Mode.after`, `bracketsFrom_append`: what a part of a line leaves the reader of brackets in, and
  what it reads from there.
* `take_leadingClosers`: the closing brackets that a line leads with are the first of its brackets.
* `placeLine_cases`: all that may become of a line.
* `textBrackets`: the brackets of a text, line by line.
* `format_isOk_iff`: a source can be laid out exactly when its brackets are balanced.
* `format_starts`: a first line without brackets and without blanks at its ends stays the first
  line.
* `moduleText_starts`: a generated file opens with the note that it is generated.
-/

namespace Subgraph

namespace Layout

open Text

/-! ### Depth -/

/-- The number of open brackets after some, when `n` are open before them; none when a closing
bracket has no opening one before it. -/
def depth : List Bracket → Nat → Option Nat
  | [], n => some n
  | .opening :: bs, n => depth bs (n + 1)
  | .closing :: _, 0 => none
  | .closing :: bs, n + 1 => depth bs n

theorem depth_append (xs ys : List Bracket) (n : Nat) :
    depth (xs ++ ys) n = (depth xs n).bind (depth ys) := by
  induction xs generalizing n with
  | nil => rfl
  | cons b xs ih =>
      cases b with
      | opening => exact ih (n + 1)
      | closing =>
          cases n with
          | zero => rfl
          | succ n => exact ih n

/-- More brackets that are open before do no harm. -/
theorem depth_add {bs : List Bracket} {n m : Nat} (h : depth bs n = some m) (k : Nat) :
    depth bs (n + k) = some (m + k) := by
  induction bs generalizing n with
  | nil => exact congrArg (fun j => some (j + k)) (Option.some.inj h)
  | cons b bs ih =>
      cases b with
      | opening =>
          rw [show depth (.opening :: bs) (n + k) = depth bs (n + 1 + k) by
            rw [depth, Nat.add_right_comm]]
          exact ih h
      | closing =>
          cases n with
          | zero => cases h
          | succ n =>
              rw [show depth (.closing :: bs) (n + 1 + k) = depth bs (n + k) by
                rw [Nat.add_right_comm, depth]]
              exact ih h

/-- The brackets match each other. -/
def Balanced (bs : List Bracket) : Prop := depth bs 0 = some 0

instance (bs : List Bracket) : Decidable (Balanced bs) :=
  inferInstanceAs (Decidable (depth bs 0 = some 0))

theorem balanced_nil : Balanced [] := rfl

theorem Balanced.depth {bs : List Bracket} (h : Balanced bs) (n : Nat) :
    Layout.depth bs n = some n := by
  have := depth_add h n
  rwa [Nat.zero_add] at this

theorem Balanced.append {xs ys : List Bracket} (hx : Balanced xs) (hy : Balanced ys) :
    Balanced (xs ++ ys) := by
  unfold Balanced
  rw [depth_append, hx]
  exact hy

/-- The stack has an entry for each open bracket. -/
theorem length_matchBrackets (k : Nat) (bs : List Bracket) (stack : List Nat) :
    (matchBrackets k bs stack).map List.length = depth bs stack.length := by
  induction bs generalizing stack with
  | nil => rfl
  | cons b bs ih =>
      cases b with
      | opening => exact ih (k :: stack)
      | closing =>
          cases stack with
          | nil => rfl
          | cons line stack => exact ih stack

/-! ### Brackets of lines -/

/-- A character that opens neither a literal nor a comment stands for its bracket, if it is one. -/
theorem bracketsFrom_cons {c : Char} (hslash : c ≠ '/') (hquote : isQuote c = false)
    (rest : List Char) :
    bracketsFrom .code (c :: rest) = (bracket? c).toList ++ bracketsFrom .code rest := by
  rw [bracketsFrom.eq_3 _ _ fun rest' h => absurd h hslash, hquote, if_neg Bool.false_ne_true]
  rcases bracket? c with _ | b <;> rfl

/-- A blank character is no mark. -/
theorem marks_of_isBlank {c : Char} (h : isBlank c = true) :
    c ≠ '/' ∧ isQuote c = false ∧ bracket? c = none := by
  have other (d : Char) (hd : isBlank d = false) : c ≠ d := by
    rintro rfl
    rw [h] at hd
    cases hd
  refine ⟨other '/' (by decide), ?_, ?_⟩
  · unfold isQuote
    rw [Bool.or_eq_false_iff, Bool.or_eq_false_iff]
    exact ⟨⟨beq_eq_false_iff_ne.mpr (other _ (by decide)),
      beq_eq_false_iff_ne.mpr (other _ (by decide))⟩, beq_eq_false_iff_ne.mpr (other _ (by decide))⟩
  · unfold bracket?
    simp only [Bool.or_eq_true, decide_eq_true_eq]
    rw [if_neg, if_neg]
    · rintro ((h | h) | h) <;> exact other _ (by decide) h
    · rintro ((h | h) | h) <;> exact other _ (by decide) h

/-- Blank characters have no brackets, inside a literal or not. -/
theorem bracketsFrom_blank (m : Mode) {ws : List Char} (h : ∀ c ∈ ws, isBlank c = true) :
    bracketsFrom m ws = [] := by
  induction ws generalizing m with
  | nil => cases m <;> rfl
  | cons c ws ih =>
      have ih := fun m => ih m fun d hd => h d (List.mem_cons_of_mem _ hd)
      obtain ⟨hslash, hquote, hbracket⟩ := marks_of_isBlank (h c List.mem_cons_self)
      cases m with
      | code =>
          rw [bracketsFrom_cons hslash hquote, hbracket, ih]
          rfl
      | quoted q =>
          rw [bracketsFrom]
          split
          · exact ih _
          · split <;> exact ih _
      | escaped q =>
          rw [bracketsFrom]
          exact ih _

/-- What the reader of brackets is in after a part of a line; none once a comment has begun. -/
def Mode.after : Mode → List Char → Option Mode
  | m, [] => some m
  | .code, '/' :: '/' :: _ => none
  | .code, c :: rest => if isQuote c then after (.quoted c) rest else after .code rest
  | .quoted q, c :: rest =>
    if c = '\\' then after (.escaped q) rest
    else if c = q then after .code rest
    else after (.quoted q) rest
  | .escaped q, _ :: rest => after (.quoted q) rest

/-- **The reader reads on where a part of the line has left it**, unless the two parts make the
slashes of a comment between them.  In a comment it reads nothing. -/
theorem bracketsFrom_append (m : Mode) (before : List Char) {rest : List Char}
    (slash : rest.head? ≠ some '/') : bracketsFrom m (before ++ rest) =
      bracketsFrom m before ++ ((m.after before).elim [] fun m' => bracketsFrom m' rest) := by
  -- what is no comment before the rest is none with it
  have comment {c : Char} {tail : List Char}
      (hc : ∀ more, c = '/' → tail = '/' :: more → False) :
      ∀ more, c = '/' → tail ++ rest = '/' :: more → False := by
    intro more hslash he
    rcases tail with _ | ⟨d, tail⟩
    · exact slash (by rw [← List.nil_append rest, he, List.head?_cons])
    · cases he
      exact hc tail hslash rfl
  fun_induction Mode.after m before with
  | case1 m => cases m <;> rfl
  | case2 tail => rfl
  | case3 c tail hc quote ih =>
      rw [List.cons_append, bracketsFrom.eq_3 _ _ (comment hc), bracketsFrom.eq_3 _ _ hc,
        if_pos quote, if_pos quote, ih]
  | case4 c tail hc quote ih =>
      rw [List.cons_append, bracketsFrom.eq_3 _ _ (comment hc), bracketsFrom.eq_3 _ _ hc,
        if_neg quote, if_neg quote, ih]
      rcases bracket? c with _ | b <;> rfl
  | case5 q tail ih => rw [List.cons_append, bracketsFrom, if_pos rfl, ih, bracketsFrom, if_pos rfl]
  | case6 c tail backslash ih =>
      rw [List.cons_append, bracketsFrom, if_neg backslash, if_pos rfl, ih, bracketsFrom,
        if_neg backslash, if_pos rfl]
  | case7 q c tail backslash quote ih =>
      rw [List.cons_append, bracketsFrom, if_neg backslash, if_neg quote, ih, bracketsFrom,
        if_neg backslash, if_neg quote]
  | case8 q c tail ih => rw [List.cons_append, bracketsFrom, ih, bracketsFrom]

/-- Blank characters at the end of a line have no part in its brackets. -/
theorem bracketsFrom_append_blank (m : Mode) (line : List Char) {ws : List Char}
    (h : ∀ c ∈ ws, isBlank c = true) : bracketsFrom m (line ++ ws) = bracketsFrom m line := by
  have slash : ws.head? ≠ some '/' := fun first => by
    have blank := h '/' (List.mem_of_mem_head? first)
    exact absurd blank (by decide)
  rw [bracketsFrom_append m line slash]
  rcases m.after line with _ | m'
  · exact List.append_nil _
  · rw [Option.elim_some, bracketsFrom_blank m' h, List.append_nil]

theorem brackets_trimStart (line : List Char) : brackets (trimStart line) = brackets line := by
  induction line with
  | nil => rfl
  | cons c cs ih =>
      rw [trimStart, List.dropWhile_cons]
      by_cases hc : isBlank c = true
      · obtain ⟨hslash, hquote, hbracket⟩ := marks_of_isBlank hc
        rw [if_pos hc]
        refine ih.trans ?_
        rw [brackets, brackets, bracketsFrom_cons hslash hquote, hbracket]
        rfl
      · rw [if_neg hc]

/-- A line has the same brackets when it is trimmed. -/
theorem brackets_trim (line : List Char) : brackets (trim line) = brackets line := by
  have ends : trimStart line =
      trim line ++ ((trimStart line).reverse.takeWhile isBlank).reverse :=
    calc trimStart line
        = ((trimStart line).reverse.takeWhile isBlank ++
            (trimStart line).reverse.dropWhile isBlank).reverse := by
          rw [List.takeWhile_append_dropWhile, List.reverse_reverse]
      _ = trim line ++ ((trimStart line).reverse.takeWhile isBlank).reverse :=
          List.reverse_append
  rw [← brackets_trimStart line, ends]
  refine (bracketsFrom_append_blank _ _ fun c hc => ?_).symm
  exact List.all_eq_true.mp List.all_takeWhile c (List.mem_reverse.mp hc)

/-! ### The closing brackets that a line leads with -/

/-- A closing bracket is no other mark, and not blank. -/
theorem marks_of_closing {c : Char} (h : bracket? c = some .closing) :
    c ≠ '/' ∧ isQuote c = false ∧ isBlank c = false := by
  unfold bracket? at h
  split at h
  · cases h
  · split at h
    · next hc =>
      simp only [Bool.or_eq_true, decide_eq_true_eq] at hc
      rcases hc with (rfl | rfl) | rfl <;> decide
    · cases h

/-- **What a line leads with are the first of its brackets**, so none of them is matched twice or
left out. -/
theorem take_leadingClosers (line : List Char) :
    (brackets line).take (leadingClosers line) = List.replicate (leadingClosers line) .closing := by
  induction line with
  | nil => rfl
  | cons c line ih =>
      rcases hb : isBlank c with _ | _
      · have kept : (c :: line).filter (fun c => !isBlank c) =
            c :: line.filter fun c => !isBlank c :=
          List.filter_cons_of_pos (by rw [hb]; rfl)
        by_cases hc : bracket? c = some .closing
        · obtain ⟨hslash, hquote, -⟩ := marks_of_closing hc
          have more : leadingClosers (c :: line) = leadingClosers line + 1 := by
            unfold leadingClosers
            rw [kept, List.takeWhile_cons_of_pos (by exact decide_eq_true hc), List.length_cons]
          rw [more, List.replicate_succ, ← ih, brackets, bracketsFrom_cons hslash hquote, hc]
          rfl
        · have none : leadingClosers (c :: line) = 0 := by
            unfold leadingClosers
            rw [kept, List.takeWhile_cons_of_neg (by rwa [decide_eq_true_iff]), List.length_nil]
          rw [none]
          rfl
      · -- a blank character has no part in either
        obtain ⟨hslash, hquote, hbracket⟩ := marks_of_isBlank hb
        have same : leadingClosers (c :: line) = leadingClosers line := by
          unfold leadingClosers
          rw [List.filter_cons_of_neg (by rw [hb]; exact Bool.false_ne_true)]
        rw [same, ← ih, brackets, bracketsFrom_cons hslash hquote, hbracket]
        rfl

/-! ### Placing the lines -/

theorem matchBrackets_append (k : Nat) (xs ys : List Bracket) (stack : List Nat) :
    matchBrackets k (xs ++ ys) stack = (matchBrackets k xs stack).bind (matchBrackets k ys) := by
  induction xs generalizing stack with
  | nil => rfl
  | cons b xs ih =>
      cases b with
      | opening => exact ih (k :: stack)
      | closing =>
          cases stack with
          | nil => rfl
          | cons line stack => exact ih stack

/-- Closing brackets take as many entries off the stack. -/
theorem matchBrackets_closing (k n : Nat) (stack : List Nat) :
    matchBrackets k (List.replicate n .closing) stack =
      if n ≤ stack.length then some (stack.drop n) else none := by
  induction n generalizing stack with
  | zero => rfl
  | succ n ih =>
      cases stack with
      | nil => rfl
      | cons line stack =>
          rw [List.replicate_succ, List.length_cons, List.drop_succ_cons]
          simp only [Nat.add_le_add_iff_right]
          exact ih stack

/-- **A line is placed** unless one of its brackets closes nothing.  It stands at the level that is
left when as many entries are off the stack as it leads with closing brackets; after it the stack is
what all its brackets leave. -/
theorem placeLine_cases (s : State) (text : List Char) :
    (placeLine s text = .error (.unbalanced (s.passed + 1)) ∧
      matchBrackets s.passed (brackets text) s.stack = none) ∨
    ∃ stack, matchBrackets s.passed (brackets text) s.stack = some stack ∧
      placeLine s text = .ok (⟨s.gap, levels (s.stack.drop (leadingClosers text)), text⟩,
        ⟨s.passed + 1, stack, true, false⟩) := by
  have whole := matchBrackets_append s.passed ((brackets text).take (leadingClosers text))
    ((brackets text).drop (leadingClosers text)) s.stack
  unfold placeLine
  dsimp only
  rw [List.take_append_drop] at whole
  rw [take_leadingClosers, matchBrackets_closing] at whole ⊢
  split at whole
  · next enough =>
    rw [if_pos enough]
    rw [Option.bind_some] at whole
    dsimp only
    rcases h : matchBrackets s.passed ((brackets text).drop (leadingClosers text))
        (s.stack.drop (leadingClosers text)) with _ | stack
    · -- the stack is used up behind the closing brackets that the line leads with
      exact .inl ⟨rfl, whole.trans h⟩
    · exact .inr ⟨stack, whole.trans h, rfl⟩
  · next few =>
    -- there are too many of those
    rw [if_neg few]
    exact .inl ⟨rfl, whole⟩

theorem placeLine_eq_ok {s : State} {text : List Char} {stack : List Nat}
    (all : matchBrackets s.passed (brackets text) s.stack = some stack) :
    placeLine s text = .ok (⟨s.gap, levels (s.stack.drop (leadingClosers text)), text⟩,
      ⟨s.passed + 1, stack, true, false⟩) := by
  rcases placeLine_cases s text with ⟨-, none⟩ | ⟨_, again, placed⟩
  · cases all.symm.trans none
  · cases all.symm.trans again
    exact placed

/-- A line is placed unless the brackets that are open before it are too few for its own. -/
theorem placeLine_eq (s : State) (text : List Char) :
    (placeLine s text = .error (.unbalanced (s.passed + 1)) ∧
        depth (brackets text) s.stack.length = none) ∨
      ∃ placed s', placeLine s text = .ok (placed, s') ∧ s'.passed = s.passed + 1 ∧
        depth (brackets text) s.stack.length = some s'.stack.length := by
  have depth := length_matchBrackets s.passed (brackets text) s.stack
  rcases placeLine_cases s text with ⟨failed, none⟩ | ⟨stack, all, placed⟩
  · rw [none] at depth
    exact .inl ⟨failed, depth.symm⟩
  · rw [all] at depth
    exact .inr ⟨_, _, placed, rfl, depth.symm⟩

/-- Lines are placed exactly when their brackets close all that are open. -/
theorem place_isOk_iff (s : State) (lines : List (List Char)) :
    (∃ placed, place s lines = .ok placed) ↔
      depth (lines.flatMap fun line => brackets (trim line)) s.stack.length = some 0 := by
  induction lines generalizing s with
  | nil =>
      rw [place, List.flatMap_nil, depth, Option.some.injEq, List.length_eq_zero_iff]
      split
      · next h => exact iff_of_true ⟨[], rfl⟩ h
      · next h => exact iff_of_false nofun h
  | cons line rest ih =>
      rw [place, List.flatMap_cons, depth_append]
      rcases ht : trim line with _ | ⟨c, cs⟩
      · -- a blank line leaves the stack alone
        exact ih _
      · dsimp only
        rcases placeLine_eq s (c :: cs) with ⟨hp, hd⟩ | ⟨placed, s', hp, -, hd⟩
        · rw [hp, hd]
          exact iff_of_false nofun nofun
        · rw [hp, hd]
          refine Iff.trans ⟨?_, ?_⟩ (ih s')
          · rintro ⟨all, h⟩
            rcases hr : place s' rest with e | others
            · simp only [bind, Except.bind, hr] at h
              cases h
            · exact ⟨others, rfl⟩
          · rintro ⟨others, h⟩
            exact ⟨placed :: others, by simp only [bind, Except.bind, h]; rfl⟩

/-! ### Brackets of texts -/

/-- The brackets of a text, line by line. -/
def textBrackets (text : List Char) : List Bracket := (pieces '\n' text).flatMap brackets

theorem textBrackets_of_notMem {line : List Char} (h : '\n' ∉ line) :
    textBrackets line = brackets line := by
  rw [textBrackets, pieces_of_notMem h]
  exact List.append_nil _

section

variable {β : Type} {f : List Char → List β} (empty : f [] = [])
include empty

/-- What is read off the lines of texts is read off them when they are put together line by line. -/
theorem flatMap_pieces_intercalate (texts : List (List Char)) :
    (pieces '\n' (List.intercalate ['\n'] texts)).flatMap f =
      texts.flatMap fun text => (pieces '\n' text).flatMap f := by
  induction texts with
  | nil =>
      rw [List.intercalate_nil, pieces, List.flatMap_singleton, empty]
      rfl
  | cons text texts ih =>
      cases texts with
      | nil =>
          rw [List.intercalate_singleton]
          exact (List.append_nil _).symm
      | cons text' texts =>
          rw [List.intercalate_cons_cons, List.append_assoc, List.singleton_append, pieces_append,
            List.flatMap_append, ih]
          rfl

/-- What is read off lines without regard to a return at their ends is read off what stands between
the line feeds. -/
theorem flatMap_linesFrom (ends : ∀ line, f (dropReturn line) = f line) {line : List Char}
    (h : '\n' ∉ line) (text : List Char) :
    (linesFrom line text).flatMap f = (pieces '\n' (line.reverse ++ text)).flatMap f := by
  induction text generalizing line with
  | nil =>
      rw [linesFrom, List.append_nil, pieces_of_notMem (mt List.mem_reverse.mp h)]
      split
      · next he =>
          subst he
          rw [List.reverse_nil, List.flatMap_singleton, empty]
          rfl
      · rfl
  | cons c text ih =>
      by_cases hc : c = '\n'
      · subst hc
        rw [linesFrom, List.flatMap_cons, ih List.not_mem_nil, ends, pieces_append,
          pieces_of_notMem (mt List.mem_reverse.mp h), List.flatMap_append, List.flatMap_singleton]
        rfl
      · rw [linesFrom.eq_3 _ _ _ hc, ih, List.reverse_cons, List.append_assoc]
        · rfl
        · exact fun hm => (List.mem_cons.mp hm).elim (fun he => hc he.symm) h

end

/-- The brackets of texts that are put together line by line. -/
theorem textBrackets_intercalate (texts : List (List Char)) :
    textBrackets (List.intercalate ['\n'] texts) = texts.flatMap textBrackets :=
  flatMap_pieces_intercalate (rfl : brackets [] = []) texts

theorem brackets_dropReturn (line : List Char) : brackets (dropReturn line) = brackets line := by
  unfold dropReturn
  split
  · next h =>
    obtain ⟨text, rfl⟩ := List.getLast?_eq_some_iff.mp h
    rw [List.dropLast_concat]
    refine (bracketsFrom_append_blank _ _ fun c hc => ?_).symm
    rw [List.mem_singleton.mp hc]
    decide
  · rfl

/-- A text has the brackets of its lines. -/
theorem flatMap_brackets_lines (text : List Char) :
    (lines text).flatMap brackets = textBrackets text :=
  flatMap_linesFrom (rfl : brackets [] = []) brackets_dropReturn List.not_mem_nil text

/-- **A source can be laid out exactly when its brackets match each other.** -/
theorem format_isOk_iff (source : String) :
    (∃ text, format source = .ok text) ↔ Balanced (textBrackets source.toList) := by
  have lines : (Text.lines source.toList).flatMap (fun line => brackets (trim line)) =
      textBrackets source.toList := by
    simp only [brackets_trim]
    exact flatMap_brackets_lines source.toList
  rw [Balanced, ← lines]
  refine Iff.trans ⟨?_, ?_⟩ (place_isOk_iff {} (Text.lines source.toList))
  · rintro ⟨text, h⟩
    rcases hp : place {} (Text.lines source.toList) with e | placed
    · simp only [format, formatChars, bind, Except.bind, hp] at h
      cases h
    · exact ⟨placed, rfl⟩
  · rintro ⟨placed, hp⟩
    exact ⟨_, by simp only [format, formatChars, bind, Except.bind, hp]; rfl⟩

/-! ### The first line -/

/-- The first of some texts is the first line of them all. -/
theorem lines_intercalate {first : List Char} (newline : '\n' ∉ first) (any : first ≠ [])
    (ends : dropReturn first = first) (others : List (List Char)) :
    ∃ rest, Text.lines (List.intercalate ['\n'] (first :: others)) = first :: rest := by
  have before := linesFrom_append_newline [] first
  rw [List.reverse_nil, List.nil_append, ends] at before
  cases others with
  | nil =>
      rw [List.intercalate_singleton]
      exact ⟨[], linesFrom_of_notMem newline (.inr any)⟩
  | cons text texts =>
      rw [List.intercalate_cons_cons, List.append_assoc, List.singleton_append]
      exact ⟨_, before _ newline⟩

/-- **A first line without brackets and without blanks at its ends stays the first line.** -/
theorem format_starts {source text : String} {first : List Char} {rest : List (List Char)}
    (h : format source = .ok text) (lines : Text.lines source.toList = first :: rest)
    (any : first ≠ []) (trimmed : trim first = first) (free : brackets first = []) :
    ∃ more, text = String.ofList first ++ "\n" ++ more := by
  obtain ⟨c, cs, rfl⟩ := List.exists_cons_of_ne_nil any
  -- nothing is open at the first line, so it stands at the margin
  have placed : placeLine {} (c :: cs) = .ok (⟨false, 0, c :: cs⟩, ⟨1, [], true, false⟩) := by
    unfold placeLine
    rw [free]
    simp only [List.take_nil, List.drop_nil]
    rfl
  simp only [format, formatChars, lines, place, trimmed, placed, bind, Except.bind, pure,
    Except.pure] at h
  rcases hr : place ⟨1, [], true, false⟩ rest with e | others
  · rw [hr] at h
    cases h
  · rw [hr] at h
    cases h
    refine ⟨String.ofList (others.flatMap Placed.render), ?_⟩
    apply String.toList_inj.mp
    simp [Placed.render]

end Layout

/-- **A generated file opens with the note that it is generated.** -/
theorem Generated.moduleText_starts {imports declarations : List String} {text : String}
    (h : moduleText imports declarations = .ok text) :
    ∃ more, text = generatedNote ++ "\n" ++ more := by
  unfold moduleText at h
  rcases hf : Layout.format (looseText imports declarations) with problem | text'
  · rw [hf] at h
    cases h
  · rw [hf] at h
    cases h
    have note := Layout.lines_intercalate (by decide : '\n' ∉ generatedNote.toList) (by decide)
      (by decide) ((imports ++ declarations).map String.toList)
    rw [looseText] at hf
    obtain ⟨rest, lines⟩ := note
    obtain ⟨more, rfl⟩ := Layout.format_starts hf (by
      rw [String.toList_intercalate]; exact lines) (by decide) (by decide) (by decide)
    exact ⟨more, by rw [String.ofList_toList]⟩

end Subgraph
