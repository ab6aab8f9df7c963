import Mathlib.Data.List.Count
import Mathlib.Data.List.Perm.Basic
import PvpDuel.Client.Input

/-!
# Bindings of actions to keys

`InputBindings` and the names of actions and input codes. Bindings that are in use give every action its
own key.
-/

namespace PvpDuel.Client

inductive InputCode
  | keyA | keyB | keyC | keyD | keyE | keyF | keyG | keyH
  | keyI | keyJ | keyK | keyL | keyM | keyN | keyO | keyP
  | keyQ | keyR | keyS | keyT | keyU | keyV | keyW | keyX
  | keyY | keyZ | arrowUp | arrowDown | arrowLeft | arrowRight | space | leftShift
deriving DecidableEq, Repr

structure Binding where
  action : Action
  input : InputCode
deriving DecidableEq, Repr

def kActions : List Action := [.moveUp, .moveDown, .moveLeft, .moveRight, .dash, .lightAttack]

def kInputCodes : List InputCode :=
  [.keyA, .keyB, .keyC, .keyD, .keyE, .keyF, .keyG, .keyH,
    .keyI, .keyJ, .keyK, .keyL, .keyM, .keyN, .keyO, .keyP,
    .keyQ, .keyR, .keyS, .keyT, .keyU, .keyV, .keyW, .keyX,
    .keyY, .keyZ, .arrowUp, .arrowDown, .arrowLeft, .arrowRight, .space, .leftShift]

/-! ### Names -/

def actionName : Action → String
  | .moveUp => "move_up"
  | .moveDown => "move_down"
  | .moveLeft => "move_left"
  | .moveRight => "move_right"
  | .dash => "dash"
  | .lightAttack => "light_attack"

def parseAction (name : String) : Option Action :=
  kActions.find? fun action => actionName action = name

def inputCodeName : InputCode → String
  | .keyA => "key_a" | .keyB => "key_b" | .keyC => "key_c" | .keyD => "key_d"
  | .keyE => "key_e" | .keyF => "key_f" | .keyG => "key_g" | .keyH => "key_h"
  | .keyI => "key_i" | .keyJ => "key_j" | .keyK => "key_k" | .keyL => "key_l"
  | .keyM => "key_m" | .keyN => "key_n" | .keyO => "key_o" | .keyP => "key_p"
  | .keyQ => "key_q" | .keyR => "key_r" | .keyS => "key_s" | .keyT => "key_t"
  | .keyU => "key_u" | .keyV => "key_v" | .keyW => "key_w" | .keyX => "key_x"
  | .keyY => "key_y" | .keyZ => "key_z"
  | .arrowUp => "arrow_up" | .arrowDown => "arrow_down"
  | .arrowLeft => "arrow_left" | .arrowRight => "arrow_right"
  | .space => "space" | .leftShift => "left_shift"

def parseInputCode (name : String) : Option InputCode :=
  kInputCodes.find? fun code => inputCodeName code = name

theorem parseAction_actionName (action : Action) : parseAction (actionName action) = some action := by
  cases action <;> rfl

theorem parseInputCode_inputCodeName (code : InputCode) :
    parseInputCode (inputCodeName code) = some code := by
  cases code <;> rfl

theorem parseAction_eq_some {name : String} {action : Action} :
    parseAction name = some action ↔ name = actionName action := by
  constructor
  · intro h
    have hname := List.find?_some (p := fun action => decide (actionName action = name)) h
    exact (of_decide_eq_true hname).symm
  · rintro rfl
    exact parseAction_actionName action

theorem parseInputCode_eq_some {name : String} {code : InputCode} :
    parseInputCode name = some code ↔ name = inputCodeName code := by
  constructor
  · intro h
    have hname := List.find?_some (p := fun code => decide (inputCodeName code = name)) h
    exact (of_decide_eq_true hname).symm
  · rintro rfl
    exact parseInputCode_inputCodeName code

/-! ### Validation -/

def repeatsInput : List Binding → Bool
  | [] => false
  | first :: rest => rest.any (fun value => value.input = first.input) || repeatsInput rest

def validate (bindings : List Binding) : Except String Unit :=
  if bindings.length ≠ kActions.length then
    .error "each action must have exactly one binding"
  else if kActions.any fun action => bindings.countP (fun value => value.action = action) ≠ 1 then
    .error "each action must have exactly one binding"
  else if repeatsInput bindings then
    .error "an input cannot be assigned to multiple actions"
  else .ok ()

/-- Every action has one binding, and no two have the same input. -/
structure Complete (bindings : List Binding) : Prop where
  once : ∀ action, bindings.countP (fun value => value.action = action) = 1
  distinct : (bindings.map Binding.input).Nodup

theorem mem_kActions (action : Action) : action ∈ kActions := by
  cases action <;> decide

theorem repeatsInput_eq_false {bindings : List Binding} :
    repeatsInput bindings = false ↔ (bindings.map Binding.input).Nodup := by
  induction bindings with
  | nil => simp [repeatsInput]
  | cons first rest ih =>
      rw [repeatsInput, Bool.or_eq_false_iff, ih, List.map_cons, List.nodup_cons]
      refine and_congr_left fun _ => ?_
      rw [List.any_eq_false, List.mem_map]
      simp

theorem Complete.length_eq {bindings : List Binding} (h : Complete bindings) :
    bindings.length = kActions.length := by
  have hperm : (bindings.map Binding.action).Perm kActions := by
    rw [List.perm_iff_count]
    intro action
    have hcount : kActions.count action = 1 := by cases action <;> decide
    rw [hcount, ← h.once action, List.count_eq_countP, List.countP_map]
    rfl
  rw [← hperm.length_eq, List.length_map]

theorem validate_eq_ok {bindings : List Binding} : validate bindings = .ok () ↔ Complete bindings := by
  unfold validate
  constructor
  · intro h
    split at h
    · exact absurd h (by simp)
    · split at h
      · exact absurd h (by simp)
      · split at h
        · exact absurd h (by simp)
        · rename_i hcounts hrepeats
          refine ⟨fun action => ?_, repeatsInput_eq_false.1 (eq_false_of_ne_true hrepeats)⟩
          by_contra hne
          exact hcounts (List.any_eq_true.2 ⟨action, mem_kActions action, decide_eq_true hne⟩)
  · intro h
    have hcounts : ¬ (kActions.any fun action =>
        decide (bindings.countP (fun value => decide (value.action = action)) ≠ 1)) = true := by
      simp [h.once]
    rw [if_neg (not_not_intro h.length_eq), if_neg hcounts, if_neg]
    exact Bool.not_eq_true _ ▸ repeatsInput_eq_false.2 h.distinct

/-- Bindings that `Validate` accepts, which are the only ones there are. -/
structure InputBindings where
  bindings : List Binding
  complete : Complete bindings

namespace InputBindings

def defaults : InputBindings where
  bindings := [⟨.moveUp, .keyW⟩, ⟨.moveDown, .keyS⟩, ⟨.moveLeft, .keyA⟩, ⟨.moveRight, .keyD⟩,
    ⟨.dash, .leftShift⟩, ⟨.lightAttack, .space⟩]
  complete := ⟨fun action => by cases action <;> decide, by decide⟩

def inputFor (b : InputBindings) (action : Action) : Option InputCode :=
  (b.bindings.find? fun value => value.action = action).map Binding.input

/-- The first binding of an action gets another input. -/
def assign (action : Action) (input : InputCode) : List Binding → List Binding
  | [] => []
  | first :: rest =>
      if first.action = action then { first with input } :: rest
      else first :: assign action input rest

def rebind (b : InputBindings) (action : Action) (input : InputCode) : Except String InputBindings :=
  if (b.bindings.find? fun value => value.action = action).isNone then .error "unknown action"
  else
    match h : validate (assign action input b.bindings) with
    | .error message => .error message
    | .ok () => .ok ⟨assign action input b.bindings, validate_eq_ok.1 h⟩

end InputBindings

end PvpDuel.Client
