import Mathlib.Data.Int.Order.Basic
import Mathlib.Algebra.Group.Int.Defs
import Mathlib.Algebra.Group.Nat.Defs
import Mathlib.Data.List.TakeWhile
import PvpDuel.Lib.Padded
import PvpDuel.Lib.SemVer

/-!
# The updater's version test

`IsNewer` of `client_updater.cpp`. A version is read part by part between its dots, and of every part the
number it begins with: what follows that number is left out. So a pre-release or build identifier counts
as a fourth number, or makes the version unreadable.
-/

namespace PvpDuel.Updater

/-! ### Reading a version -/

/-- The exceptions of `std::stoi`. -/
inductive StoiError
  | invalidArgument
  | outOfRange
deriving DecidableEq, Repr

def isspace (c : Char) : Bool := c = ' ' || ('\t' ≤ c && c ≤ '\r')

def takeSign : List Char → Bool × List Char
  | '-' :: rest => (true, rest)
  | '+' :: rest => (false, rest)
  | rest => (false, rest)

def stoi (text : List Char) : Except StoiError Int :=
  let (negative, rest) := takeSign (text.dropWhile isspace)
  let digits := rest.takeWhile Char.isDigit
  if digits = [] then .error .invalidArgument
  else
    let value : Int :=
      if negative then -(Nat.ofDigitChars 10 digits 0 : Int) else Nat.ofDigitChars 10 digits 0
    if -2 ^ 31 ≤ value ∧ value < 2 ^ 31 then .ok value else .error .outOfRange

def trimVersion : List Char → List Char
  | 'v' :: rest => rest
  | version => version

/-- The loop of `VersionParts`, from a start on. -/
def versionPartsFrom (rest : List Char) (parts : List Int) : List Int :=
  if rest = [] then parts
  else
    match stoi (rest.takeWhile (· ≠ '.')) with
    | .error _ => []
    | .ok part =>
        match _hafter : rest.dropWhile (· ≠ '.') with
        | [] => parts ++ [part]
        | _ :: next => versionPartsFrom next (parts ++ [part])
termination_by rest.length
decreasing_by
  have hlength := (List.dropWhile_suffix (l := rest) (fun c => decide (c ≠ '.'))).length_le
  rw [_hafter, List.length_cons] at hlength
  omega

def versionParts (version : List Char) : List Int := versionPartsFrom (trimVersion version) []

/-- The compiled-in version is a parameter. -/
def isNewer (current candidate : List Char) : Bool :=
  let currentParts := versionParts current
  let candidateParts := versionParts candidate
  if currentParts.isEmpty || candidateParts.isEmpty then false
  else
    match (List.range (max currentParts.length candidateParts.length)).find?
        fun index => candidateParts.getD index 0 ≠ currentParts.getD index 0 with
    | some index => decide (candidateParts.getD index 0 > currentParts.getD index 0)
    | none => false

/-! ### The order of the parts -/

theorem isNewer_iff {current candidate : List Char} : isNewer current candidate = true ↔
    versionParts current ≠ [] ∧ versionParts candidate ≠ [] ∧
      Padded.Less 0 (versionParts current) (versionParts candidate) := by
  rw [Padded.less_iff_firstDifference]
  unfold isNewer
  by_cases hempty : versionParts current = [] ∨ versionParts candidate = []
  · have hunread : ((versionParts current).isEmpty || (versionParts candidate).isEmpty) = true := by
      simpa [List.isEmpty_iff] using hempty
    simp only [hunread, if_true]
    refine iff_of_false Bool.false_ne_true fun h => ?_
    exact hempty.elim h.1 h.2.1
  · have hread : ((versionParts current).isEmpty || (versionParts candidate).isEmpty) = false := by
      simpa [List.isEmpty_iff] using hempty
    push Not at hempty
    simp only [hread, Bool.false_eq_true, if_false]
    rw [and_iff_right hempty.1, and_iff_right hempty.2]
    change (match Padded.firstDifference 0 (versionParts current) (versionParts candidate) with
      | some index => _
      | none => _) = true ↔ _
    cases Padded.firstDifference 0 (versionParts current) (versionParts candidate) with
    | none => simp
    | some index =>
        simp [Padded.padded]

theorem isNewer_of_parts_eq {current candidate : List Char}
    (hparts : versionParts current = versionParts candidate) : isNewer current candidate = false := by
  rw [← Bool.not_eq_true, isNewer_iff, hparts]
  intro h
  exact Padded.less_irrefl 0 _ h.2.2

theorem isNewer_asymm {current candidate : List Char} (h : isNewer current candidate = true) :
    isNewer candidate current = false := by
  rw [← Bool.not_eq_true, isNewer_iff]
  intro hback
  exact Padded.less_asymm 0 (isNewer_iff.1 h).2.2 hback.2.2

/-! ### The numbers between the dots -/

section Reading

theorem takeWhile_append_cons {α : Type} {p : α → Bool} {c : α} (hc : p c = false) (xs ys : List α) :
    (xs ++ c :: ys).takeWhile p = xs.takeWhile p := by
  induction xs with
  | nil => simp [hc]
  | cons x xs ih =>
      by_cases hx : p x = true
      · simp [hx, ih]
      · simp [hx]

theorem dropWhile_append_cons {α : Type} {p : α → Bool} {c : α} (hc : p c = false) {xs : List α}
    (hxs : ∀ x ∈ xs, p x = true) (ys : List α) : (xs ++ c :: ys).dropWhile p = c :: ys := by
  rw [List.dropWhile_append_of_pos hxs, List.dropWhile_cons_of_neg (by simp [hc])]

theorem ne_dot {part : List Char} (h : '.' ∉ part) : ∀ c ∈ part, decide (c ≠ '.') = true := by
  intro c hc
  exact decide_eq_true fun hdot => h (hdot ▸ hc)

theorem versionPartsFrom_last {part : List Char} (hpart : part ≠ []) (hdot : '.' ∉ part)
    (parts : List Int) : versionPartsFrom part parts =
      match stoi part with
      | .error _ => []
      | .ok number => parts ++ [number] := by
  have hall := ne_dot hdot
  rw [versionPartsFrom, if_neg hpart, List.takeWhile_eq_self_iff.2 hall]
  cases stoi part with
  | error _ => rfl
  | ok number =>
      have hafter : part.dropWhile (fun c => decide (c ≠ '.')) = [] := List.dropWhile_eq_nil_iff.2 hall
      simp only
      split
      · rfl
      · rename_i hrest
        rw [hafter] at hrest
        exact absurd hrest (List.cons_ne_nil _ _).symm

theorem versionPartsFrom_dot {part : List Char} (hdot : '.' ∉ part) (rest : List Char)
    (parts : List Int) : versionPartsFrom (part ++ '.' :: rest) parts =
      match stoi part with
      | .error _ => []
      | .ok number => versionPartsFrom rest (parts ++ [number]) := by
  have hall := ne_dot hdot
  rw [versionPartsFrom, if_neg (by simp), takeWhile_append_cons (by decide),
    List.takeWhile_eq_self_iff.2 hall]
  cases stoi part with
  | error _ => rfl
  | ok number =>
      have hafter := dropWhile_append_cons (c := '.') (by decide) hall rest
      simp only
      split
      · rename_i hrest
        rw [hafter] at hrest
        exact absurd hrest (List.cons_ne_nil _ _)
      · rename_i hrest
        rw [hafter] at hrest
        rw [(List.cons.inj hrest).2]

/-- The numbers of all parts, if all of them have one. -/
def readAll (parts : List (List Char)) : Option (List Int) := parts.mapM fun part => (stoi part).toOption

@[simp] theorem readAll_nil : readAll [] = some [] := rfl

theorem readAll_cons (part : List Char) (parts : List (List Char)) : readAll (part :: parts) =
    (stoi part).toOption.bind fun number => (readAll parts).map (number :: ·) := by
  simp only [readAll, List.mapM_cons]
  cases (stoi part).toOption with
  | none => rfl
  | some number => cases parts.mapM fun part => (stoi part).toOption <;> rfl

theorem versionPartsFrom_dotted {components : List (List Char)} (hne : components ≠ [])
    (hcomponents : ∀ part ∈ components, part ≠ [] ∧ '.' ∉ part) (parts : List Int) :
    versionPartsFrom (SemVer.dotted components) parts =
      ((readAll components).map (parts ++ ·)).getD [] := by
  induction components generalizing parts with
  | nil => exact absurd rfl hne
  | cons part components ih =>
      rw [List.forall_mem_cons] at hcomponents
      cases components with
      | nil =>
          rw [SemVer.dotted_singleton, versionPartsFrom_last hcomponents.1.1 hcomponents.1.2]
          cases hread : stoi part with
          | error _ => simp [readAll, hread, Except.toOption]
          | ok number => simp [readAll, hread, Except.toOption]
      | cons next components =>
          rw [SemVer.dotted_cons_cons, versionPartsFrom_dot hcomponents.1.2]
          cases hread : stoi part with
          | error _ => simp [readAll, hread, Except.toOption]
          | ok number =>
              simp only
              rw [ih (List.cons_ne_nil _ _) hcomponents.2, readAll_cons part, hread]
              cases readAll (next :: components) with
              | none => rfl
              | some numbers => simp [Except.toOption]

theorem readAll_append (firsts seconds : List (List Char)) : readAll (firsts ++ seconds) =
    (readAll firsts).bind fun numbers => (readAll seconds).map (numbers ++ ·) := by
  induction firsts with
  | nil => simp
  | cons part firsts ih =>
      rw [List.cons_append, readAll_cons, readAll_cons, ih]
      cases (stoi part).toOption with
      | none => rfl
      | some number =>
          cases readAll firsts with
          | none => rfl
          | some numbers => simp [Option.map_map, Function.comp_def]

theorem stoi_append_cons {part : List Char} {c : Char} (hpart : part ≠ [])
    (hspace : ∀ d ∈ part, isspace d = false) (hc : c.isDigit = false) (rest : List Char) :
    stoi (part ++ c :: rest) = stoi part := by
  obtain ⟨head, tail, rfl⟩ := List.exists_cons_of_ne_nil hpart
  have hhead : ¬ isspace head = true := by
    rw [hspace head List.mem_cons_self]
    exact Bool.false_ne_true
  have hsign : takeSign (head :: tail ++ c :: rest) =
      ((takeSign (head :: tail)).1, (takeSign (head :: tail)).2 ++ c :: rest) := by
    unfold takeSign
    split <;> simp_all
  unfold stoi
  rw [List.cons_append, List.dropWhile_cons_of_neg hhead, List.dropWhile_cons_of_neg hhead,
    ← List.cons_append, hsign]
  simp only [takeWhile_append_cons hc]

theorem readAll_glue {separator : Char} (hseparator : separator.isDigit = false)
    {firsts seconds : List (List Char)} (hne : firsts ≠ [])
    (hfirsts : ∀ part ∈ firsts, part ≠ [] ∧ ∀ c ∈ part, isspace c = false) :
    readAll (SemVer.glue separator firsts seconds) = readAll (firsts ++ seconds.tail) := by
  induction firsts with
  | nil => exact absurd rfl hne
  | cons part firsts ih =>
      rw [List.forall_mem_cons] at hfirsts
      cases firsts with
      | nil =>
          cases seconds with
          | nil => rfl
          | cons first seconds =>
              rw [SemVer.glue, readAll_cons,
                stoi_append_cons hfirsts.1.1 hfirsts.1.2 hseparator, ← readAll_cons]
              rfl
      | cons next firsts =>
          rw [SemVer.glue, readAll_cons, ih (List.cons_ne_nil _ _) hfirsts.2, ← readAll_cons]
          rfl

end Reading

end PvpDuel.Updater
