import PvpDuel.Updater.Version

/-!
# Precedence and the updater

The order of `IsNewer` beside the precedence of semantic versions. They agree on the core; after it the
code compares the numbers its parts begin with.
-/

namespace PvpDuel.Updater

open SemVer

/-! ### The characters of a version -/

theorem le_toNat_of_identifier {c : Char} (h : isIdentifierChar c = true) : 45 ≤ c.toNat := by
  have hfrom : ∀ low : UInt32, 45 ≤ low.toNat → low ≤ c.val → 45 ≤ c.toNat :=
    fun _ hlow hle => le_trans hlow (UInt32.le_iff_toNat_le.1 hle)
  rcases Bool.or_eq_true_iff.1 h with halphanum | hhyphen
  · rcases Bool.or_eq_true_iff.1 halphanum with halpha | hdigit
    · rcases Bool.or_eq_true_iff.1 halpha with hupper | hlower
      · exact hfrom 'A'.val (by decide) (of_decide_eq_true hupper).1
      · exact hfrom 'a'.val (by decide) (of_decide_eq_true (Bool.and_eq_true_iff.1 hlower).1)
    · exact hfrom '0'.val (by decide) (of_decide_eq_true (Bool.and_eq_true_iff.1 hdigit).1)
  · exact of_decide_eq_true hhyphen ▸ by decide

theorem not_isspace_of_identifier {c : Char} (h : isIdentifierChar c = true) : isspace c = false := by
  rw [← Bool.not_eq_true]
  intro hspace
  have hlow : c.toNat ≤ 32 := by
    simp only [isspace, Bool.or_eq_true, Bool.and_eq_true, decide_eq_true_eq] at hspace
    rcases hspace with hblank | hcontrol
    · exact hblank ▸ by decide
    · exact le_trans hcontrol.2 (by decide)
  have hhigh := le_toNat_of_identifier h
  omega

theorem takeSign_of_digit {head : Char} (h : head.isDigit = true) (tail : List Char) :
    takeSign (head :: tail) = (false, head :: tail) := by
  have hminus : head ≠ '-' := fun heq => absurd (heq ▸ h) (by decide)
  have hplus : head ≠ '+' := fun heq => absurd (heq ▸ h) (by decide)
  unfold takeSign
  split <;> simp_all

theorem stoi_toDigits {n : Nat} (hn : n < 2 ^ 31) : stoi (Nat.toDigits 10 n) = .ok (n : Int) := by
  obtain ⟨head, tail, htext⟩ := List.exists_cons_of_ne_nil (Nat.toDigits_ne_nil (b := 10) (n := n))
  have hhead : head.isDigit = true := isDigit_toDigits head (htext ▸ List.mem_cons_self)
  have hspace : ¬ isspace head = true := by
    rw [not_isspace_of_identifier (isIdentifierChar_of_isDigit hhead)]
    exact Bool.false_ne_true
  have hdigits : (head :: tail).takeWhile Char.isDigit = head :: tail :=
    List.takeWhile_eq_self_iff.2 (htext ▸ isDigit_toDigits)
  have hvalue : Nat.ofDigitChars 10 (head :: tail) 0 = n := by
    rw [← htext, Nat.ofDigitChars_ten_toDigits]
  rw [htext, stoi, List.dropWhile_cons_of_neg hspace, takeSign_of_digit hhead]
  simp only [hdigits, hvalue, Bool.false_eq_true, if_false, reduceCtorEq]
  exact if_pos ⟨by omega, by omega⟩

/-! ### The parts of a version -/

def Plain (part : List Char) : Prop := part ≠ [] ∧ ∀ c ∈ part, c ≠ '.' ∧ isspace c = false

theorem plain_of_identifier {part : List Char} (hne : part ≠ [])
    (h : ∀ c ∈ part, isIdentifierChar c = true) : Plain part := by
  refine ⟨hne, fun c hc => ⟨fun hdot => ?_, not_isspace_of_identifier (h c hc)⟩⟩
  exact absurd (hdot ▸ h c hc) (by decide)

theorem Plain.glue {separator : Char} (hdot : separator ≠ '.') (hspace : isspace separator = false)
    {last first : List Char} (hlast : Plain last) (hfirst : Plain first) :
    Plain (last ++ separator :: first) := by
  refine ⟨by simp, fun c hc => ?_⟩
  rw [List.mem_append, List.mem_cons] at hc
  rcases hc with hc | rfl | hc
  · exact hlast.2 c hc
  · exact ⟨hdot, hspace⟩
  · exact hfirst.2 c hc

theorem plain_toDigits (n : Nat) : Plain (Nat.toDigits 10 n) :=
  plain_of_identifier Nat.toDigits_ne_nil (identifier_toDigits n)

theorem plain_coreParts (v : Version) : ∀ part ∈ v.coreParts, Plain part := by
  simp only [Version.coreParts, List.mem_cons, List.not_mem_nil, or_false, forall_eq_or_imp, forall_eq]
  exact ⟨plain_toDigits _, plain_toDigits _, plain_toDigits _⟩

theorem plain_preReleaseParts (v : Version) : ∀ part ∈ v.preReleaseParts, Plain part := by
  intro part hpart
  obtain ⟨identifier, hmem, rfl⟩ := List.mem_map.1 hpart
  have hvalid := v.preRelease_valid identifier hmem
  exact plain_of_identifier (Identifier.text_ne_nil hvalid) (Identifier.isIdentifierChar_text hvalid)

theorem plain_firstGlue (v : Version) : ∀ part ∈ glue '-' v.coreParts v.preReleaseParts, Plain part :=
  forall_mem_glue (fun _ _ => Plain.glue (by decide) (by decide)) (plain_coreParts v)
    (plain_preReleaseParts v)

theorem plain_components (v : Version) : ∀ part ∈ v.components, Plain part :=
  forall_mem_glue (fun _ _ => Plain.glue (by decide) (by decide)) (plain_firstGlue v)
    fun part hpart => plain_of_identifier (v.build_valid part hpart).1 (v.build_valid part hpart).2

theorem Version.dotted_components (v : Version) :
    ∃ rest, dotted v.components = Nat.toDigits 10 v.major ++ '.' :: rest := by
  obtain ⟨next, later, hlater⟩ := List.exists_cons_of_ne_nil
    (glue_ne_nil '+' (glue_ne_nil '-'
      (List.cons_ne_nil (Nat.toDigits 10 v.minor) [Nat.toDigits 10 v.patch]) v.preReleaseParts) v.build)
  have hcomponents : v.components = Nat.toDigits 10 v.major :: next :: later := by
    rw [← hlater]
    rfl
  exact ⟨_, by rw [hcomponents, dotted_cons_cons]⟩

theorem trimVersion_render (prefixed : Bool) (v : Version) :
    trimVersion (v.render prefixed) = dotted v.components := by
  rw [Version.render_eq]
  cases prefixed with
  | true => rfl
  | false =>
      obtain ⟨rest, hrest⟩ := Version.dotted_components v
      obtain ⟨head, tail, hdigits⟩ :=
        List.exists_cons_of_ne_nil (Nat.toDigits_ne_nil (b := 10) (n := v.major))
      have hhead : head.isDigit = true := isDigit_toDigits head (hdigits ▸ List.mem_cons_self)
      have hv : head ≠ 'v' := fun heq => absurd (heq ▸ hhead) (by decide)
      rw [hrest, hdigits]
      simp [trimVersion, hv]

/-! ### The numbers the code compares -/

/-- The numbers of the core are of the type `int`. -/
def CoreFits (v : Version) : Prop := v.major < 2 ^ 31 ∧ v.minor < 2 ^ 31 ∧ v.patch < 2 ^ 31

/-- The number an identifier begins with, behind a hyphen its negative, if an `int` holds it. -/
def leadingNumber (identifier : List Char) : Option Int :=
  let negative : Bool := identifier.head? = some '-'
  let digits := (if negative then identifier.tail else identifier).takeWhile Char.isDigit
  let value : Int :=
    if negative then -(Nat.ofDigitChars 10 digits 0 : Int) else Nat.ofDigitChars 10 digits 0
  if digits ≠ [] ∧ -2 ^ 31 ≤ value ∧ value < 2 ^ 31 then some value else none

theorem stoi_toOption {identifier : List Char} (h : ∀ c ∈ identifier, isIdentifierChar c = true) :
    (stoi identifier).toOption = leadingNumber identifier := by
  have hspace : identifier.dropWhile isspace = identifier := by
    cases identifier with
    | nil => rfl
    | cons head tail =>
        refine List.dropWhile_cons_of_neg ?_
        rw [not_isspace_of_identifier (h head List.mem_cons_self)]
        exact Bool.false_ne_true
  have hsign : takeSign identifier = (decide (identifier.head? = some '-'),
      if identifier.head? = some '-' then identifier.tail else identifier) := by
    unfold takeSign
    split
    · simp
    · exact absurd (h '+' List.mem_cons_self) (by decide)
    · rename_i hminus _
      have hhead : identifier.head? ≠ some '-' := by
        intro hhead
        obtain ⟨tail, rfl⟩ := List.head?_eq_some_iff.1 hhead
        exact hminus tail rfl
      simp [hhead]
  rw [stoi, leadingNumber, hspace, hsign]
  simp only [decide_eq_true_eq, ne_eq]
  by_cases hdigits : ((if identifier.head? = some '-' then identifier.tail else identifier).takeWhile
      Char.isDigit) = []
  · rw [if_pos hdigits, if_neg fun hread => hread.1 hdigits]
    rfl
  · rw [if_neg hdigits]
    simp only [hdigits, not_false_eq_true, true_and]
    exact apply_ite Except.toOption _ _ _

theorem readAll_identifiers {parts : List (List Char)}
    (h : ∀ part ∈ parts, ∀ c ∈ part, isIdentifierChar c = true) :
    readAll parts = parts.mapM leadingNumber := by
  induction parts with
  | nil => rfl
  | cons part parts ih =>
      rw [List.forall_mem_cons] at h
      rw [readAll_cons, stoi_toOption h.1, ih h.2, List.mapM_cons]
      cases leadingNumber part with
      | none => rfl
      | some number => cases parts.mapM leadingNumber <;> rfl

/-- What follows the core, but for the first identifier of the pre-release and the first of the build. -/
def laterParts (v : Version) : List (List Char) := v.preReleaseParts.tail ++ v.build.tail

def laterNumbers (v : Version) : Option (List Int) := (laterParts v).mapM leadingNumber

theorem identifiers_later (v : Version) :
    ∀ part ∈ laterParts v, ∀ c ∈ part, isIdentifierChar c = true := by
  intro part hpart
  rcases List.mem_append.1 hpart with hpart | hpart
  · obtain ⟨identifier, hmem, rfl⟩ := List.mem_map.1 (List.mem_of_mem_tail hpart)
    exact Identifier.isIdentifierChar_text (v.preRelease_valid identifier hmem)
  · exact (v.build_valid part (List.mem_of_mem_tail hpart)).2

def coreNumbers (v : Version) : List Int := [(v.major : Int), (v.minor : Int), (v.patch : Int)]

theorem readAll_coreParts {v : Version} (hfits : CoreFits v) :
    readAll v.coreParts = some (coreNumbers v) := by
  rw [Version.coreParts, readAll_cons, readAll_cons, readAll_cons, stoi_toDigits hfits.1,
    stoi_toDigits hfits.2.1, stoi_toDigits hfits.2.2]
  rfl

theorem readAll_components {v : Version} (hfits : CoreFits v) :
    readAll v.components = (laterNumbers v).map (coreNumbers v ++ ·) := by
  have hfirst : ∀ part ∈ glue '-' v.coreParts v.preReleaseParts,
      part ≠ [] ∧ ∀ c ∈ part, isspace c = false :=
    fun part hpart => ⟨(plain_firstGlue v part hpart).1, fun c hc => ((plain_firstGlue v part hpart).2 c hc).2⟩
  have hcore : ∀ part ∈ v.coreParts, part ≠ [] ∧ ∀ c ∈ part, isspace c = false :=
    fun part hpart => ⟨(plain_coreParts v part hpart).1, fun c hc => ((plain_coreParts v part hpart).2 c hc).2⟩
  calc readAll v.components
      = readAll (glue '-' v.coreParts v.preReleaseParts ++ v.build.tail) :=
        readAll_glue (by decide) (glue_ne_nil _ v.coreParts_ne_nil _) hfirst
    _ = readAll (v.coreParts ++ (v.preReleaseParts.tail ++ v.build.tail)) := by
        rw [readAll_append, readAll_glue (by decide) v.coreParts_ne_nil hcore, ← readAll_append,
          List.append_assoc]
    _ = (laterNumbers v).map (coreNumbers v ++ ·) := by
        rw [← laterParts, readAll_append, readAll_coreParts hfits, readAll_identifiers (identifiers_later v)]
        rfl

theorem versionParts_render {v : Version} (hfits : CoreFits v) (prefixed : Bool) :
    versionParts (v.render prefixed) = ((laterNumbers v).map (coreNumbers v ++ ·)).getD [] := by
  rw [versionParts, trimVersion_render, versionPartsFrom_dotted v.components_ne_nil,
    readAll_components hfits]
  · cases laterNumbers v <;> rfl
  · exact fun part hpart => ⟨(plain_components v part hpart).1,
      fun hdot => ((plain_components v part hpart).2 '.' hdot).1 rfl⟩

/-! ### The two orders -/

theorem less_coreNumbers {v w : Version} {later others : List Int} :
    Padded.Less 0 (coreNumbers v ++ later) (coreNumbers w ++ others) ↔
      v.core < w.core ∨ v.core = w.core ∧ Padded.Less 0 later others := by
  rw [Version.core_lt_iff, Version.core_eq_iff]
  simp only [coreNumbers, List.cons_append, List.nil_append, Padded.less_cons_cons, Int.ofNat_lt,
    Int.natCast_inj]
  tauto

/-- All parts begin with a number that an `int` holds. -/
def Reads (parts : List (List Char)) : Prop := ∀ part ∈ parts, (leadingNumber part).isSome = true

/-- The number a part begins with, and 0 where there is no more part. -/
def numberAt (parts : List (List Char)) (i : ℕ) : Int := (parts[i]?.bind leadingNumber).getD 0

/-- All parts begin with numbers, and in the first place where these differ the second is larger. -/
def Rises (parts others : List (List Char)) : Prop :=
  Reads parts ∧ Reads others ∧
    ∃ i, (∀ j < i, numberAt parts j = numberAt others j) ∧ numberAt parts i < numberAt others i

@[simp] theorem numberAt_zero (part : List Char) (parts : List (List Char)) :
    numberAt (part :: parts) 0 = (leadingNumber part).getD 0 := rfl

@[simp] theorem numberAt_succ (part : List Char) (parts : List (List Char)) (i : ℕ) :
    numberAt (part :: parts) (i + 1) = numberAt parts i := rfl

theorem reads_cons {part : List Char} {parts : List (List Char)} :
    Reads (part :: parts) ↔ (leadingNumber part).isSome = true ∧ Reads parts :=
  List.forall_mem_cons

theorem mapM_leadingNumber {parts : List (List Char)} (h : Reads parts) :
    ∃ numbers, parts.mapM leadingNumber = some numbers ∧
      ∀ i, Padded.padded 0 numbers i = numberAt parts i := by
  induction parts with
  | nil => exact ⟨[], rfl, fun i => rfl⟩
  | cons part parts ih =>
      obtain ⟨hpart, hparts⟩ := reads_cons.1 h
      obtain ⟨number, hnumber⟩ := Option.isSome_iff_exists.1 hpart
      obtain ⟨numbers, hnumbers, hat⟩ := ih hparts
      refine ⟨number :: numbers, by rw [List.mapM_cons, hnumber, hnumbers]; rfl, fun i => ?_⟩
      cases i with
      | zero =>
          rw [numberAt_zero, hnumber]
          rfl
      | succ i => exact hat i

theorem reads_iff {parts : List (List Char)} :
    (parts.mapM leadingNumber).isSome = true ↔ Reads parts := by
  constructor
  · induction parts with
    | nil => exact fun _ part hpart => absurd hpart List.not_mem_nil
    | cons part parts ih =>
        intro h
        rw [List.mapM_cons] at h
        cases hpart : leadingNumber part with
        | none =>
            rw [hpart] at h
            cases h
        | some number =>
            refine reads_cons.2 ⟨by rw [hpart]; rfl, ih ?_⟩
            cases hparts : parts.mapM leadingNumber with
            | none =>
                rw [hpart, hparts] at h
                cases h
            | some numbers => rfl
  · intro h
    obtain ⟨numbers, hnumbers, -⟩ := mapM_leadingNumber h
    rw [hnumbers]
    rfl

theorem rises_iff {parts others : List (List Char)} : Rises parts others ↔
    ∃ numbers later, parts.mapM leadingNumber = some numbers ∧ others.mapM leadingNumber = some later ∧
      Padded.Less 0 numbers later := by
  constructor
  · rintro ⟨hparts, hothers, hless⟩
    obtain ⟨numbers, hnumbers, hat⟩ := mapM_leadingNumber hparts
    obtain ⟨later, hlater, hat'⟩ := mapM_leadingNumber hothers
    refine ⟨numbers, later, hnumbers, hlater, (Padded.less_iff 0).2 ?_⟩
    simp only [hat, hat']
    exact hless
  · rintro ⟨numbers, later, hnumbers, hlater, hless⟩
    have hparts : Reads parts := reads_iff.1 (by rw [hnumbers]; rfl)
    have hothers : Reads others := reads_iff.1 (by rw [hlater]; rfl)
    obtain ⟨_, hsame, hat⟩ := mapM_leadingNumber hparts
    obtain ⟨_, hsame', hat'⟩ := mapM_leadingNumber hothers
    obtain rfl := Option.some.inj (hnumbers.symm.trans hsame)
    obtain rfl := Option.some.inj (hlater.symm.trans hsame')
    refine ⟨hparts, hothers, ?_⟩
    simp only [← hat, ← hat']
    exact (Padded.less_iff 0).1 hless

theorem isNewer_render {current candidate : Version} (hcurrent : CoreFits current)
    (hcandidate : CoreFits candidate) (prefixed prefixed' : Bool) :
    isNewer (current.render prefixed) (candidate.render prefixed') = true ↔
      (Reads (laterParts current) ∧ Reads (laterParts candidate) ∧ current.core < candidate.core) ∨
        current.core = candidate.core ∧ Rises (laterParts current) (laterParts candidate) := by
  rw [isNewer_iff, versionParts_render hcurrent, versionParts_render hcandidate, rises_iff,
    ← reads_iff, ← reads_iff]
  change _ ↔ ((laterNumbers current).isSome = true ∧ (laterNumbers candidate).isSome = true ∧ _) ∨ _ ∧
    ∃ numbers later, laterNumbers current = some numbers ∧ laterNumbers candidate = some later ∧ _
  cases laterNumbers current with
  | none => simp
  | some later =>
      cases laterNumbers candidate with
      | none => simp
      | some others =>
          simp only [Option.map_some, Option.getD_some, less_coreNumbers]
          simp [coreNumbers]

/-! ### Where they agree -/

instance : ∀ first second : Identifier, Decidable (first.Less second)
  | .numeric first, .numeric second => inferInstanceAs (Decidable (first < second))
  | .numeric _, .alphanumeric _ => isTrue trivial
  | .alphanumeric _, .numeric _ => isFalse id
  | .alphanumeric first, .alphanumeric second => inferInstanceAs (Decidable (first < second))

/-- What is asked of two versions with one core, along their pre-releases, once these have begun alike.
Two different numeric identifiers are compared as they should be. Everywhere else the code is right only
by what the numbers of all parts happen to be. -/
def Told (current candidate : Version) : List Identifier → List Identifier → Prop
  | [], [] => ¬ Rises (laterParts current) (laterParts candidate)
  | [], _ :: _ => Rises (laterParts current) (laterParts candidate)
  | _ :: _, [] => ¬ Rises (laterParts current) (laterParts candidate)
  | .numeric first :: firsts, .numeric second :: seconds =>
      if first = second then Told current candidate firsts seconds
      else first < second → Reads (laterParts current) ∧ Reads (laterParts candidate)
  | first :: firsts, second :: seconds =>
      if first = second then Told current candidate firsts seconds
      else if first.Less second then Rises (laterParts current) (laterParts candidate)
      else ¬ Rises (laterParts current) (laterParts candidate)

/-- The first identifiers are not among the parts that are compared. -/
def ToldFrom (current candidate : Version) : List Identifier → List Identifier → Prop
  | [], _ => ¬ Rises (laterParts current) (laterParts candidate)
  | _ :: _, [] => Rises (laterParts current) (laterParts candidate)
  | first :: firsts, second :: seconds =>
      if first = second then Told current candidate firsts seconds
      else if first.Less second then Rises (laterParts current) (laterParts candidate)
      else ¬ Rises (laterParts current) (laterParts candidate)

/-- Where the code's order is that of precedence. When the current core is the lower one, all parts that
follow must be read; when it is the higher one, nothing is asked. -/
structure Agrees (current candidate : Version) : Prop where
  read : current.core < candidate.core → Reads (laterParts current) ∧ Reads (laterParts candidate)
  told : current.core = candidate.core →
    ToldFrom current candidate current.preRelease candidate.preRelease

theorem less_irrefl (identifier : Identifier) : ¬ identifier.Less identifier := by
  cases identifier with
  | numeric value => exact Nat.lt_irrefl value
  | alphanumeric text => exact List.lt_irrefl text

theorem lex_cons_of_ne {first second : Identifier} (hne : first ≠ second) (firsts seconds : List Identifier) :
    List.Lex Identifier.Less (first :: firsts) (second :: seconds) ↔ first.Less second := by
  rw [List.cons_lex_cons_iff]
  exact ⟨fun h => h.resolve_right fun hsame => hne hsame.1, .inl⟩

theorem lex_cons_self (identifier : Identifier) (firsts seconds : List Identifier) :
    List.Lex Identifier.Less (identifier :: firsts) (identifier :: seconds) ↔
      List.Lex Identifier.Less firsts seconds := by
  rw [List.cons_lex_cons_iff]
  exact ⟨fun h => (h.resolve_left (less_irrefl identifier)).2, fun h => .inr ⟨rfl, h⟩⟩

theorem leadingNumber_toDigits {n : Nat} {number : Int} (h : leadingNumber (Nat.toDigits 10 n) = some number) :
    number = n := by
  have hsign : (Nat.toDigits 10 n).head? ≠ some '-' := fun hhead =>
    absurd (isDigit_toDigits '-' (List.mem_of_head? hhead)) (by decide)
  have hdigits : (Nat.toDigits 10 n).takeWhile Char.isDigit = Nat.toDigits 10 n :=
    List.takeWhile_eq_self_iff.2 isDigit_toDigits
  simp only [leadingNumber, hsign, decide_false, Bool.false_eq_true, if_false, hdigits,
    Nat.ofDigitChars_ten_toDigits] at h
  split_ifs at h
  exact (Option.some.inj h).symm

theorem numberAt_numeric {parts : List (List Char)} {i n : ℕ} (hreads : Reads parts)
    (hat : parts[i]? = some (Nat.toDigits 10 n)) : numberAt parts i = n := by
  obtain ⟨number, hnumber⟩ := Option.isSome_iff_exists.1 (hreads _ (List.mem_of_getElem? hat))
  rw [numberAt, hat, Option.bind_some, hnumber, ← leadingNumber_toDigits hnumber]
  rfl

theorem rises_numeric {before firsts seconds : List (List Char)} {m n : ℕ} (hne : m ≠ n) :
    Rises (before ++ Nat.toDigits 10 m :: firsts) (before ++ Nat.toDigits 10 n :: seconds) ↔
      m < n ∧ Reads (before ++ Nat.toDigits 10 m :: firsts) ∧
        Reads (before ++ Nat.toDigits 10 n :: seconds) := by
  have hbefore : ∀ j < before.length, numberAt (before ++ Nat.toDigits 10 m :: firsts) j =
      numberAt (before ++ Nat.toDigits 10 n :: seconds) j := by
    intro j hj
    rw [numberAt, numberAt, List.getElem?_append_left hj, List.getElem?_append_left hj]
  have hat : ∀ {number : ℕ} {rest : List (List Char)}, Reads (before ++ Nat.toDigits 10 number :: rest) →
      numberAt (before ++ Nat.toDigits 10 number :: rest) before.length = number := fun hreads =>
    numberAt_numeric hreads (by rw [List.getElem?_append_right (Nat.le_refl _), Nat.sub_self]; rfl)
  constructor
  · rintro ⟨hreads, hreads', i, hsame, hless⟩
    refine ⟨?_, hreads, hreads'⟩
    obtain hlt | rfl | hgt := lt_trichotomy i before.length
    · exact absurd (hbefore i hlt) hless.ne
    · rw [hat hreads, hat hreads'] at hless
      exact Int.ofNat_lt.1 hless
    · have hequal := hsame before.length hgt
      rw [hat hreads, hat hreads'] at hequal
      exact absurd (Int.ofNat.inj hequal) hne
  · rintro ⟨hlt, hreads, hreads'⟩
    refine ⟨hreads, hreads', before.length, hbefore, ?_⟩
    rw [hat hreads, hat hreads']
    exact Int.ofNat_lt.2 hlt

theorem told_cons_self {current candidate : Version} (identifier : Identifier)
    (firsts seconds : List Identifier) :
    Told current candidate (identifier :: firsts) (identifier :: seconds) ↔
      Told current candidate firsts seconds := by
  cases identifier with
  | numeric value => rw [Told, if_pos rfl]
  | alphanumeric text =>
      rw [Told, if_pos rfl]
      exact nofun

theorem told_other {current candidate : Version} {first second : Identifier} {firsts seconds : List Identifier}
    (hother : ∀ m n, first = .numeric m → second ≠ .numeric n) (hne : first ≠ second) :
    (Rises (laterParts current) (laterParts candidate) ↔ first.Less second) ↔
      Told current candidate (first :: firsts) (second :: seconds) := by
  rw [Told, if_neg hne]
  · split_ifs with hless
    · rw [iff_true_intro hless, iff_true]
    · rw [iff_false_intro hless, iff_false]
  · exact fun m n hfirst hsecond => hother m n hfirst hsecond

/-- The induction is on what is left of the pre-releases behind the identifiers they share. -/
theorem told_iff {current candidate : Version} {before firsts seconds : List Identifier}
    (hcurrent : laterParts current = before.map Identifier.text ++
      (firsts.map Identifier.text ++ current.build.tail))
    (hcandidate : laterParts candidate = before.map Identifier.text ++
      (seconds.map Identifier.text ++ candidate.build.tail)) :
    (Rises (laterParts current) (laterParts candidate) ↔ List.Lex Identifier.Less firsts seconds) ↔
      Told current candidate firsts seconds := by
  induction firsts generalizing before seconds with
  | nil =>
      cases seconds with
      | nil => exact iff_of_eq (by rw [Told, iff_false_intro List.not_lex_nil, iff_false])
      | cons second seconds =>
          rw [iff_true_intro (List.Lex.nil : List.Lex Identifier.Less [] (second :: seconds)), iff_true]
          rfl
  | cons first firsts ih =>
      cases seconds with
      | nil =>
          rw [iff_false_intro List.not_lex_nil, iff_false]
          cases first <;> rfl
      | cons second seconds =>
          by_cases hsame : first = second
          · subst hsame
            rw [lex_cons_self, told_cons_self]
            refine @ih (before ++ [first]) seconds ?_ ?_
            · rw [hcurrent, List.map_append, List.append_assoc]
              rfl
            · rw [hcandidate, List.map_append, List.append_assoc]
              rfl
          · rw [lex_cons_of_ne hsame]
            cases first with
            | numeric m =>
                cases second with
                | numeric n =>
                    have hne : m ≠ n := fun heq => hsame (heq ▸ rfl)
                    rw [Told, if_neg hne, hcurrent, hcandidate]
                    exact (iff_congr (rises_numeric hne) Iff.rfl).trans and_iff_left_iff_imp
                | alphanumeric text => exact told_other nofun hsame
            | alphanumeric text => exact told_other nofun hsame

theorem toldFrom_iff (current candidate : Version) :
    (Rises (laterParts current) (laterParts candidate) ↔
      PreReleaseLess current.preRelease candidate.preRelease) ↔
        ToldFrom current candidate current.preRelease candidate.preRelease := by
  have hparts : ∀ {v : Version} {first : Identifier} {later : List Identifier},
      v.preRelease = first :: later →
        laterParts v = ([] : List Identifier).map Identifier.text ++
          (later.map Identifier.text ++ v.build.tail) := by
    intro v first later hpre
    rw [laterParts, Version.preReleaseParts, hpre]
    rfl
  cases hcurrent : current.preRelease with
  | nil => exact iff_of_eq (iff_false _)
  | cons first firsts =>
      cases hcandidate : candidate.preRelease with
      | nil => exact iff_of_eq (iff_true _)
      | cons second seconds =>
          rw [ToldFrom, PreReleaseLess]
          split_ifs with hsame hless
          · subst hsame
            rw [lex_cons_self]
            exact told_iff (hparts hcurrent) (hparts hcandidate)
          · rw [lex_cons_of_ne hsame, iff_true_intro hless, iff_true]
          · rw [lex_cons_of_ne hsame, iff_false_intro hless, iff_false]

theorem agrees_iff {current candidate : Version} (hcurrent : CoreFits current)
    (hcandidate : CoreFits candidate) (prefixed prefixed' : Bool) :
    (isNewer (current.render prefixed) (candidate.render prefixed') = true ↔
      current.Precedes candidate) ↔ Agrees current candidate := by
  rw [isNewer_render hcurrent hcandidate, Version.Precedes]
  obtain hlt | heq | hgt := lt_trichotomy current.core candidate.core
  · have hne := hlt.ne
    constructor
    · intro h
      refine ⟨fun _ => ?_, fun heq => absurd heq hne⟩
      obtain ⟨hcurrent, hcandidate, -⟩ | hsame := h.2 (.inl hlt)
      · exact ⟨hcurrent, hcandidate⟩
      · exact absurd hsame.1 hne
    · intro h
      have hread := h.read hlt
      exact iff_of_true (.inl ⟨hread.1, hread.2, hlt⟩) (.inl hlt)
  · have hnot : ¬ current.core < candidate.core := heq.not_lt
    simp only [hnot, and_false, false_or]
    rw [and_iff_right heq, and_iff_right heq, toldFrom_iff]
    exact ⟨fun h => ⟨fun hlt => absurd hlt hnot, fun _ => h⟩, fun h => h.told heq⟩
  · refine iff_of_true (iff_of_false ?_ ?_) ⟨fun hlt => absurd hlt hgt.not_gt, fun heq => ?_⟩
    · rintro (h | h)
      · exact hgt.not_gt h.2.2
      · exact hgt.ne h.1.symm
    · rintro (h | h)
      · exact hgt.not_gt h
      · exact hgt.ne h.1.symm
    · exact absurd heq.symm hgt.ne

/-- The test is a strict order on all texts, and that of precedence exactly where the two agree. -/
theorem isNewer_iff_precedes {current candidate : Version} (hcurrent : CoreFits current)
    (hcandidate : CoreFits candidate) (prefixed prefixed' : Bool) :
    ((isNewer (current.render prefixed) (candidate.render prefixed') = true ↔
      current.Precedes candidate) ↔ Agrees current candidate) ∧
    isNewer (current.render prefixed) (current.render prefixed') = false ∧
    (isNewer (current.render prefixed) (candidate.render prefixed') = true →
      isNewer (candidate.render prefixed') (current.render prefixed) = false) := by
  refine ⟨agrees_iff hcurrent hcandidate prefixed prefixed', ?_, isNewer_asymm⟩
  apply isNewer_of_parts_eq
  rw [versionParts_render hcurrent, versionParts_render hcurrent]

/-! ### Releases -/

def release (major minor patch : Nat) : Version where
  major := major
  minor := minor
  patch := patch
  preRelease := []
  build := []
  preRelease_valid := by simp
  build_valid := by simp

theorem agrees_of_release {current candidate : Version} (hcurrent : current.preRelease = [])
    (hcandidate : candidate.preRelease = []) (hbuild : current.build = []) (hbuild' : candidate.build = []) :
    Agrees current candidate := by
  have hnone : ∀ {v : Version}, v.preRelease = [] → v.build = [] → laterParts v = [] := by
    intro v hpre hbuild
    rw [laterParts, Version.preReleaseParts, hpre, hbuild]
    rfl
  have hreads : Reads [] := fun part hpart => absurd hpart List.not_mem_nil
  refine ⟨fun _ => ?_, fun _ => ?_⟩
  · rw [hnone hcurrent hbuild, hnone hcandidate hbuild']
    exact ⟨hreads, hreads⟩
  · rw [hcurrent, ToldFrom, hnone hcurrent hbuild, hnone hcandidate hbuild']
    rintro ⟨-, -, i, -, hless⟩
    exact lt_irrefl _ hless

theorem isNewer_iff_precedes_stable :
    isNewer ((release 1 9 0).render true) ((release 1 10 0).render false) = true :=
  have hcurrent : CoreFits (release 1 9 0) := ⟨by decide, by decide, by decide⟩
  have hcandidate : CoreFits (release 1 10 0) := ⟨by decide, by decide, by decide⟩
  have hlt : (release 1 9 0).core < (release 1 10 0).core :=
    Version.core_lt_iff.2 (.inr ⟨rfl, .inl (by decide)⟩)
  ((isNewer_iff_precedes hcurrent hcandidate true false).1.2 (agrees_of_release rfl rfl rfl rfl)).2
    (.inl hlt)

def releaseCandidate : Version where
  major := 1
  minor := 0
  patch := 0
  preRelease := [.alphanumeric ['r', 'c'], .numeric 2]
  build := []
  preRelease_valid := by
    have hchars : ∀ c ∈ ['r', 'c'], isIdentifierChar c = true :=
      List.forall_mem_cons.2 ⟨by decide, List.forall_mem_singleton.2 (by decide)⟩
    rw [List.forall_mem_cons, List.forall_mem_singleton]
    exact ⟨⟨hchars, 'r', List.mem_cons_self, by decide⟩, trivial⟩
  build_valid := by simp

theorem candidate_newer_than_release :
    (release 1 0 0).render false = "1.0.0".toList ∧ releaseCandidate.render false = "1.0.0-rc.2".toList ∧
      isNewer ((release 1 0 0).render false) (releaseCandidate.render false) = true ∧
      isNewer (releaseCandidate.render false) ((release 1 0 0).render false) = false ∧
      releaseCandidate.Precedes (release 1 0 0) ∧ ¬ (release 1 0 0).Precedes releaseCandidate := by
  have hsame : (release 1 0 0).core = releaseCandidate.core := rfl
  have hlater : Rises (laterParts (release 1 0 0)) (laterParts releaseCandidate) :=
    rises_iff.2 ⟨[], [2], rfl, by decide +kernel, 0, fun j hj => absurd hj (Nat.not_lt_zero j), by decide⟩
  have hnewer : isNewer ((release 1 0 0).render false) (releaseCandidate.render false) = true :=
    (isNewer_render ⟨by decide, by decide, by decide⟩ ⟨by decide, by decide, by decide⟩ false false).2
      (.inr ⟨hsame, hlater⟩)
  refine ⟨by decide +kernel, by decide +kernel, hnewer, isNewer_asymm hnewer, .inr ⟨hsame.symm, trivial⟩, ?_⟩
  rintro (hlt | hless)
  · exact absurd hsame hlt.ne
  · exact hless.2

end PvpDuel.Updater
