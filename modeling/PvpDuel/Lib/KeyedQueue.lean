import Mathlib.Data.List.Sort

/-!
# Bounded queues sorted by a key

A queue holds at most one element of each key, in increasing order of the keys, and refuses new keys
once it is full. `insert` keeps all of this, and a queue is determined by its members.
-/

namespace PvpDuel.KeyedQueue

variable {α κ : Type}

section Members

variable [LE κ] [DecidableLE κ] (key : α → κ)

/-- The elements in increasing order of their keys. -/
def sort (elements : List α) : List α :=
  elements.insertionSort (fun first second => key first ≤ key second)

@[simp] theorem mem_sort {elements : List α} {element : α} :
    element ∈ sort key elements ↔ element ∈ elements :=
  List.mem_insertionSort _

@[simp] theorem length_sort (elements : List α) : (sort key elements).length = elements.length :=
  List.length_insertionSort _ _

variable [DecidableEq κ]

/-- Add an element unless its key is present or the queue is full. -/
def insert (capacity : Nat) (queue : List α) (element : α) : List α :=
  if queue.any (fun queued => key queued = key element) then queue
  else if queue.length ≥ capacity then queue
  else sort key (queue ++ [element])

theorem length_insert_le {capacity : Nat} {queue : List α} (h : queue.length ≤ capacity)
    (element : α) : (insert key capacity queue element).length ≤ capacity := by
  unfold insert
  split_ifs with hpresent hfull
  · exact h
  · exact h
  · rw [length_sort, List.length_append, List.length_singleton]
    omega

theorem mem_of_mem_insert {capacity : Nat} {queue : List α} {element other : α}
    (h : other ∈ insert key capacity queue element) : other ∈ queue ∨ other = element := by
  unfold insert at h
  split_ifs at h with hpresent hfull
  · exact .inl h
  · exact .inl h
  · rw [mem_sort, List.mem_append, List.mem_singleton] at h
    exact h

theorem insert_of_present {capacity : Nat} {queue : List α} {element : α}
    (h : ∃ queued ∈ queue, key queued = key element) :
    insert key capacity queue element = queue := by
  obtain ⟨queued, hqueued, hkey⟩ := h
  exact if_pos (List.any_eq_true.2 ⟨queued, hqueued, decide_eq_true hkey⟩)

/-- With room left, inserting an element of a new key adds exactly this element. -/
theorem mem_insert_of_new {capacity : Nat} {queue : List α} {element : α}
    (hnew : ∀ queued ∈ queue, key queued ≠ key element) (hroom : queue.length < capacity)
    {other : α} :
    other ∈ insert key capacity queue element ↔ other ∈ queue ∨ other = element := by
  have hany : ¬ queue.any (fun queued => key queued = key element) = true := by
    rw [List.any_eq_true]
    rintro ⟨queued, hqueued, hkey⟩
    exact hnew queued hqueued (of_decide_eq_true hkey)
  rw [insert, if_neg hany, if_neg (Nat.not_le.2 hroom), mem_sort, List.mem_append,
    List.mem_singleton]

end Members

section Order

variable [LE κ] [LT κ] [Std.LawfulOrderLT κ] {key : α → κ}

def Sorted (key : α → κ) (queue : List α) : Prop :=
  queue.Pairwise fun first second => key first < key second

theorem Sorted.distinct {queue : List α} (h : Sorted key queue) :
    queue.Pairwise fun first second => key first ≠ key second := by
  refine h.imp ?_
  intro first second hlt heq
  rw [heq] at hlt
  exact Std.lt_irrefl hlt

variable [Std.IsLinearOrder κ]

theorem Sorted.eq_of_mem_iff {first second : List α} (hfirst : Sorted key first)
    (hsecond : Sorted key second) (h : ∀ element, element ∈ first ↔ element ∈ second) :
    first = second := by
  let r : α → α → Prop := fun first second => key first < key second
  have : Std.Irrefl r := ⟨fun _ => Std.lt_irrefl⟩
  have : Std.Antisymm r := ⟨fun _ _ h₁ h₂ => absurd (Std.lt_trans h₁ h₂) Std.lt_irrefl⟩
  exact List.Pairwise.eq_of_mem_iff (r := r) hfirst hsecond h

variable [DecidableLE κ]

theorem sorted_sort {elements : List α}
    (hdistinct : elements.Pairwise fun first second => key first ≠ key second) :
    Sorted key (sort key elements) := by
  let r : α → α → Prop := fun first second => key first ≤ key second
  have : Std.Total r := ⟨fun _ _ => Std.le_total⟩
  have : IsTrans α r := ⟨fun _ _ _ => Std.le_trans⟩
  have hle : (sort key elements).Pairwise r := List.pairwise_insertionSort r elements
  have hne : (sort key elements).Pairwise fun first second => key first ≠ key second :=
    (List.perm_insertionSort r elements).pairwise_iff (fun h => h.symm) |>.2 hdistinct
  refine (hle.and hne).imp ?_
  intro first second h
  exact Std.lt_of_le_of_ne h.1 h.2

theorem Sorted.insert [DecidableEq κ] {capacity : Nat} {queue : List α} (h : Sorted key queue)
    (element : α) : Sorted key (insert key capacity queue element) := by
  unfold KeyedQueue.insert
  split_ifs with hpresent hfull
  · exact h
  · exact h
  · apply sorted_sort
    rw [List.pairwise_append]
    refine ⟨h.distinct, List.pairwise_singleton _ _, ?_⟩
    intro queued hqueued added hadded hkey
    rw [List.mem_singleton] at hadded
    subst added
    exact hpresent (List.any_eq_true.2 ⟨queued, hqueued, decide_eq_true hkey⟩)

/-- When elements of one key are equal and there is room for all of them, inserting a list of elements
adds exactly these. -/
theorem Sorted.mem_foldl_insert [DecidableEq κ] {capacity : Nat} {queue elements : List α}
    (h : Sorted key queue)
    (hvalue : ∀ first ∈ queue ++ elements, ∀ second ∈ queue ++ elements,
      key first = key second → first = second)
    (hroom : ∀ part : List α, part.Nodup → part ⊆ queue ++ elements → part.length ≤ capacity)
    {other : α} : other ∈ elements.foldl (KeyedQueue.insert key capacity) queue ↔
      other ∈ queue ++ elements := by
  induction elements generalizing queue with
  | nil => rw [List.foldl_nil, List.append_nil]
  | cons element elements ih =>
      have hmem : ∀ other, other ∈ KeyedQueue.insert key capacity queue element ↔
          other ∈ queue ∨ other = element := by
        intro other
        by_cases hpresent : ∃ queued ∈ queue, key queued = key element
        · obtain ⟨queued, hqueued, hkey⟩ := hpresent
          have hsame : queued = element := hvalue queued (List.mem_append_left _ hqueued) element
            (List.mem_append_right _ List.mem_cons_self) hkey
          rw [insert_of_present key ⟨queued, hqueued, hkey⟩]
          refine ⟨.inl, ?_⟩
          rintro (hother | rfl)
          · exact hother
          · rwa [← hsame]
        · have hnew : ∀ queued ∈ queue, key queued ≠ key element :=
            fun queued hqueued hkey => hpresent ⟨queued, hqueued, hkey⟩
          refine mem_insert_of_new key hnew ?_
          have hnodup : (element :: queue).Nodup := List.nodup_cons.2
            ⟨fun hqueued => hnew element hqueued rfl, h.distinct.imp fun hne heq => hne (by rw [heq])⟩
          have hpart : element :: queue ⊆ queue ++ element :: elements := by simp
          exact hroom _ hnodup hpart
      have hsub : KeyedQueue.insert key capacity queue element ++ elements ⊆
          queue ++ element :: elements := by
        intro other hother
        simp only [List.mem_append, hmem, List.mem_cons] at hother ⊢
        tauto
      rw [List.foldl_cons, ih (h.insert element)
        (fun first hfirst second hsecond => hvalue first (hsub hfirst) second (hsub hsecond))
        (fun part hnodup hpart => hroom part hnodup (List.Subset.trans hpart hsub))]
      simp only [List.mem_append, hmem, List.mem_cons, or_assoc]

theorem Sorted.foldl_insert [DecidableEq κ] {capacity : Nat} {queue : List α} (h : Sorted key queue)
    (elements : List α) : Sorted key (elements.foldl (KeyedQueue.insert key capacity) queue) := by
  induction elements generalizing queue with
  | nil => exact h
  | cons element elements ih => exact ih (h.insert element)

theorem Sorted.foldl_insert_congr [DecidableEq κ] {capacity : Nat} {queue elements elements' : List α}
    (h : Sorted key queue) (hmem : ∀ element, element ∈ elements ↔ element ∈ elements')
    (hvalue : ∀ first ∈ queue ++ elements, ∀ second ∈ queue ++ elements,
      key first = key second → first = second)
    (hroom : ∀ part : List α, part.Nodup → part ⊆ queue ++ elements → part.length ≤ capacity) :
    elements.foldl (KeyedQueue.insert key capacity) queue =
      elements'.foldl (KeyedQueue.insert key capacity) queue := by
  have hsub : queue ++ elements' ⊆ queue ++ elements := by
    intro other hother
    rw [List.mem_append] at hother ⊢
    exact hother.imp_right (hmem other).2
  refine (h.foldl_insert elements).eq_of_mem_iff (h.foldl_insert elements') fun other => ?_
  rw [h.mem_foldl_insert hvalue hroom, h.mem_foldl_insert
    (fun first hfirst second hsecond => hvalue first (hsub hfirst) second (hsub hsecond))
    (fun part hnodup hpart => hroom part hnodup (List.Subset.trans hpart hsub)), List.mem_append,
    List.mem_append, hmem]

theorem Sorted.insert_last [DecidableEq κ] {capacity : Nat} {queue : List α} (h : Sorted key queue)
    {element : α} (hlast : ∀ queued ∈ queue, key queued < key element)
    (hroom : queue.length < capacity) :
    KeyedQueue.insert key capacity queue element = queue ++ [element] := by
  have hconcat : Sorted key (queue ++ [element]) := by
    refine List.pairwise_append.2 ⟨h, List.pairwise_singleton _ _, ?_⟩
    intro queued hqueued added hadded
    rw [List.mem_singleton.1 hadded]
    exact hlast queued hqueued
  refine (h.insert element).eq_of_mem_iff hconcat fun other => ?_
  rw [mem_insert_of_new _ _ hroom, List.mem_append, List.mem_singleton]
  intro queued hqueued hkey
  have hlt := hlast queued hqueued
  rw [hkey] at hlt
  exact Std.lt_irrefl hlt

end Order

end PvpDuel.KeyedQueue
