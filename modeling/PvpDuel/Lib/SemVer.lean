import Mathlib.Data.Prod.Lex
import Mathlib.Data.List.Basic

/-!
# Semantic versions

The versions of SemVer 2.0, how they are written, and their precedence. Build metadata has none.
-/

namespace PvpDuel.SemVer

def isIdentifierChar (c : Char) : Bool := c.isAlphanum || c = '-'

inductive Identifier
  | numeric (value : Nat)
  | alphanumeric (text : List Char)
deriving DecidableEq, Repr

namespace Identifier

def text : Identifier → List Char
  | numeric value => Nat.toDigits 10 value
  | alphanumeric text => text

/-- An alphanumeric identifier has another character than digits. -/
def Valid : Identifier → Prop
  | numeric _ => True
  | alphanumeric text => (∀ c ∈ text, isIdentifierChar c = true) ∧ ∃ c ∈ text, c.isDigit = false

/-- Numeric identifiers are compared as numbers and are below the others, which are compared in the
order of ASCII. -/
def Less : Identifier → Identifier → Prop
  | numeric first, numeric second => first < second
  | numeric _, alphanumeric _ => True
  | alphanumeric _, numeric _ => False
  | alphanumeric first, alphanumeric second => first < second

end Identifier

structure Version where
  major : Nat
  minor : Nat
  patch : Nat
  preRelease : List Identifier
  build : List (List Char)
  preRelease_valid : ∀ identifier ∈ preRelease, identifier.Valid
  build_valid : ∀ part ∈ build, part ≠ [] ∧ ∀ c ∈ part, isIdentifierChar c = true

def dotted (parts : List (List Char)) : List Char := List.intercalate ['.'] parts

namespace Version

def core (v : Version) : ℕ ×ₗ ℕ ×ₗ ℕ := toLex (v.major, toLex (v.minor, v.patch))

def coreParts (v : Version) : List (List Char) :=
  [Nat.toDigits 10 v.major, Nat.toDigits 10 v.minor, Nat.toDigits 10 v.patch]

def preReleaseParts (v : Version) : List (List Char) := v.preRelease.map Identifier.text

/-- The version, written with or without a `v` before it. -/
def render (prefixed : Bool) (v : Version) : List Char :=
  (if prefixed then ['v'] else []) ++ dotted v.coreParts ++
    (if v.preReleaseParts = [] then [] else '-' :: dotted v.preReleaseParts) ++
    if v.build = [] then [] else '+' :: dotted v.build

end Version

/-- A version without pre-release identifiers is above all with some; identifiers are compared from left
to right, and where all are equal, more of them are above fewer. -/
def PreReleaseLess : List Identifier → List Identifier → Prop
  | [], _ => False
  | _ :: _, [] => True
  | first :: firsts, second :: seconds =>
      List.Lex Identifier.Less (first :: firsts) (second :: seconds)

namespace Version

/-- The first version has lower precedence. -/
def Precedes (v w : Version) : Prop :=
  v.core < w.core ∨ v.core = w.core ∧ PreReleaseLess v.preRelease w.preRelease

theorem core_lt_iff {v w : Version} : v.core < w.core ↔
    v.major < w.major ∨ v.major = w.major ∧
      (v.minor < w.minor ∨ v.minor = w.minor ∧ v.patch < w.patch) := by
  simp only [core, Prod.Lex.toLex_lt_toLex]

theorem core_eq_iff {v w : Version} : v.core = w.core ↔
    v.major = w.major ∧ v.minor = w.minor ∧ v.patch = w.patch := by
  simp only [core, EmbeddingLike.apply_eq_iff_eq, Prod.mk.injEq]

end Version

/-! ### The characters of identifiers -/

theorem isIdentifierChar_of_isDigit {c : Char} (h : c.isDigit = true) : isIdentifierChar c = true := by
  simp [isIdentifierChar, Char.isAlphanum, h]

theorem isDigit_toDigits {n : Nat} : ∀ c ∈ Nat.toDigits 10 n, c.isDigit = true :=
  fun _ hc => Nat.isDigit_of_mem_toDigits (by decide) (by decide) hc

theorem identifier_toDigits (n : Nat) : ∀ c ∈ Nat.toDigits 10 n, isIdentifierChar c = true :=
  fun c hc => isIdentifierChar_of_isDigit (isDigit_toDigits c hc)

theorem Identifier.isIdentifierChar_text {identifier : Identifier} (h : identifier.Valid) :
    ∀ c ∈ identifier.text, isIdentifierChar c = true := by
  cases identifier with
  | numeric value => exact identifier_toDigits value
  | alphanumeric text => exact h.1

theorem Identifier.text_ne_nil {identifier : Identifier} (h : identifier.Valid) :
    identifier.text ≠ [] := by
  cases identifier with
  | numeric value => exact Nat.toDigits_ne_nil
  | alphanumeric text =>
      obtain ⟨c, hc, -⟩ := h.2
      exact List.ne_nil_of_mem hc

/-! ### What is between the dots -/

/-- Two lists of parts whose last and first are written together, with a character between them. -/
def glue (separator : Char) : List (List Char) → List (List Char) → List (List Char)
  | [], seconds => seconds
  | [last], [] => [last]
  | [last], first :: seconds => (last ++ separator :: first) :: seconds
  | part :: next :: parts, seconds => part :: glue separator (next :: parts) seconds

theorem dotted_cons_cons (part next : List Char) (parts : List (List Char)) :
    dotted (part :: next :: parts) = part ++ '.' :: dotted (next :: parts) := by
  simp [dotted, List.intercalate_cons_cons]

theorem dotted_singleton (part : List Char) : dotted [part] = part := by
  simp [dotted]

theorem glue_ne_nil (separator : Char) {firsts : List (List Char)} (h : firsts ≠ [])
    (seconds : List (List Char)) : glue separator firsts seconds ≠ [] := by
  cases firsts with
  | nil => exact absurd rfl h
  | cons part parts =>
      cases parts with
      | nil => cases seconds <;> simp [glue]
      | cons next parts => simp [glue]

theorem glue_nil (separator : Char) (firsts : List (List Char)) : glue separator firsts [] = firsts := by
  induction firsts with
  | nil => rfl
  | cons part parts ih =>
      cases parts with
      | nil => rfl
      | cons next parts => rw [glue, ih]

theorem dotted_glue {separator : Char} {firsts seconds : List (List Char)} (hfirsts : firsts ≠ [])
    (hseconds : seconds ≠ []) :
    dotted (glue separator firsts seconds) = dotted firsts ++ separator :: dotted seconds := by
  induction firsts with
  | nil => exact absurd rfl hfirsts
  | cons part parts ih =>
      cases parts with
      | nil =>
          cases seconds with
          | nil => exact absurd rfl hseconds
          | cons first seconds =>
              rw [glue, dotted_singleton]
              cases seconds with
              | nil => rw [dotted_singleton, dotted_singleton]
              | cons second seconds => simp [dotted_cons_cons]
      | cons next parts =>
          have hnext := ih (by simp)
          obtain ⟨head, tail, htail⟩ :=
            List.exists_cons_of_ne_nil (glue_ne_nil separator (List.cons_ne_nil next parts) seconds)
          rw [glue, dotted_cons_cons, htail, dotted_cons_cons, ← htail, hnext]
          simp

/-- What holds of both lists and of the part in the middle holds of what is written together. -/
theorem forall_mem_glue {P : List Char → Prop} {separator : Char}
    (hglue : ∀ last first, P last → P first → P (last ++ separator :: first))
    {firsts seconds : List (List Char)} (hfirsts : ∀ part ∈ firsts, P part)
    (hseconds : ∀ part ∈ seconds, P part) : ∀ part ∈ glue separator firsts seconds, P part := by
  induction firsts with
  | nil => exact hseconds
  | cons part parts ih =>
      cases parts with
      | nil =>
          cases seconds with
          | nil => exact hfirsts
          | cons first seconds =>
              rw [glue, List.forall_mem_cons]
              exact ⟨hglue _ _ (hfirsts part List.mem_cons_self) (hseconds first List.mem_cons_self),
                fun other hother => hseconds other (List.mem_cons_of_mem _ hother)⟩
      | cons next parts =>
          rw [glue, List.forall_mem_cons]
          exact ⟨hfirsts part List.mem_cons_self,
            ih fun other hother => hfirsts other (List.mem_cons_of_mem _ hother)⟩

/-- What is between the dots of a written version. -/
def Version.components (v : Version) : List (List Char) :=
  glue '+' (glue '-' v.coreParts v.preReleaseParts) v.build

theorem Version.coreParts_ne_nil (v : Version) : v.coreParts ≠ [] := List.cons_ne_nil _ _

theorem Version.components_ne_nil (v : Version) : v.components ≠ [] :=
  glue_ne_nil _ (glue_ne_nil _ v.coreParts_ne_nil _) _

theorem Version.render_eq (prefixed : Bool) (v : Version) :
    v.render prefixed = (if prefixed then ['v'] else []) ++ dotted v.components := by
  have hcore := v.coreParts_ne_nil
  have hpre : dotted (glue '-' v.coreParts v.preReleaseParts) = dotted v.coreParts ++
      if v.preReleaseParts = [] then [] else '-' :: dotted v.preReleaseParts := by
    by_cases h : v.preReleaseParts = []
    · rw [if_pos h, h, glue_nil, List.append_nil]
    · rw [if_neg h, dotted_glue hcore h]
  have hbuild : dotted v.components = dotted (glue '-' v.coreParts v.preReleaseParts) ++
      if v.build = [] then [] else '+' :: dotted v.build := by
    by_cases h : v.build = []
    · rw [if_pos h, Version.components, h, glue_nil, List.append_nil]
    · rw [if_neg h, Version.components, dotted_glue (glue_ne_nil _ hcore _) h]
  rw [hbuild, hpre, Version.render]
  simp only [List.append_assoc]

end PvpDuel.SemVer
