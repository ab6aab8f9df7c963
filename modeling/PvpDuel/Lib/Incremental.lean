import Mathlib.Data.List.Forall2
import Mathlib.Tactic.Common

/-!
# Incremental decoding

A receiver appends what arrives to a buffer, decodes items from its front while it can, and leaves the
rest for the next time. If more input never changes what the front of a buffer decodes to, then how the
input is cut into pieces does not matter: the same items are handled in the same order, and the same
rest stays behind.
-/

namespace PvpDuel.Incremental

/-- What the front of a buffer decodes to: an item and what follows it, a failure, or nothing yet. -/
inductive Front (β α ε : Type)
  | item (value : α) (rest : List β)
  | failure (error : ε)
  | incomplete

/-- A decoder whose answers more input does not change. -/
structure Decoder (β α ε : Type) where
  next : List β → Front β α ε
  item_append : ∀ {buffer value rest}, next buffer = .item value rest →
    ∀ more, next (buffer ++ more) = .item value (rest ++ more)
  failure_append : ∀ {buffer error}, next buffer = .failure error →
    ∀ more, next (buffer ++ more) = .failure error
  shrinks : ∀ {buffer value rest}, next buffer = .item value rest → rest.length < buffer.length
  next_nil : next [] = .incomplete

variable {β α ε σ : Type} (d : Decoder β α ε) (handle : σ → α → σ) (fail : σ → ε → σ)

/-- Handle every item at the front of the buffer, and the failure behind them if there is one. -/
def consume (s : σ) (buffer : List β) : σ × List β :=
  match h : d.next buffer with
  | .item value rest =>
      have := d.shrinks h
      consume (handle s value) rest
  | .failure error => (fail s error, buffer)
  | .incomplete => (s, buffer)
termination_by buffer.length

def feed (s : σ) (buffer : List β) (pieces : List (List β)) : σ × List β :=
  pieces.foldl (fun now piece => consume d handle fail now.1 (now.2 ++ piece)) (s, buffer)

variable {d handle fail} {s : σ} {buffer : List β}

theorem consume_item {value : α} {rest : List β} (h : d.next buffer = .item value rest) :
    consume d handle fail s buffer = consume d handle fail (handle s value) rest := by
  rw [consume]
  split <;> simp_all

theorem consume_failure {error : ε} (h : d.next buffer = .failure error) :
    consume d handle fail s buffer = (fail s error, buffer) := by
  rw [consume]
  split <;> simp_all

theorem consume_incomplete (h : d.next buffer = .incomplete) :
    consume d handle fail s buffer = (s, buffer) := by
  rw [consume]
  split <;> simp_all

/-- Consuming what there is and then the rest with more is consuming all of it. -/
theorem consume_append (hfail : ∀ s error, fail (fail s error) error = fail s error)
    (more : List β) :
    consume d handle fail (consume d handle fail s buffer).1
        ((consume d handle fail s buffer).2 ++ more) =
      consume d handle fail s (buffer ++ more) := by
  fun_induction consume d handle fail s buffer with
  | case1 s buffer value rest hitem hlt ih =>
      rw [consume_item (d.item_append hitem more)]
      exact ih
  | case2 s buffer error hfailure =>
      have hmore := d.failure_append hfailure more
      rw [consume_failure hmore, consume_failure hmore, hfail]
  | case3 s buffer hincomplete => rfl

theorem feed_consume (hfail : ∀ s error, fail (fail s error) error = fail s error)
    (pieces : List (List β)) :
    feed d handle fail (consume d handle fail s buffer).1 (consume d handle fail s buffer).2 pieces =
      consume d handle fail s (buffer ++ pieces.flatten) := by
  induction pieces generalizing buffer with
  | nil => simp [feed]
  | cons piece pieces ih =>
      rw [List.flatten_cons, ← List.append_assoc, ← ih, ← consume_append hfail piece]
      rfl

theorem feed_eq (hfail : ∀ s error, fail (fail s error) error = fail s error)
    (pieces : List (List β)) :
    feed d handle fail s [] pieces = consume d handle fail s pieces.flatten := by
  have hempty : consume d handle fail s [] = (s, []) := consume_incomplete d.next_nil
  have hfeed : feed d handle fail (consume d handle fail s []).1 (consume d handle fail s []).2 pieces =
      consume d handle fail s ([] ++ pieces.flatten) := feed_consume hfail pieces
  rw [hempty] at hfeed
  exact hfeed

/-! ### What was encoded -/

variable (d) in
/-- The bytes decode to the value, whatever follows them. -/
def Encodes (value : α) (bytes : List β) : Prop :=
  ∀ more, d.next (bytes ++ more) = .item value more

theorem consume_encoded {values : List α} {parts : List (List β)}
    (h : List.Forall₂ (Encodes d) values parts) (more : List β) :
    consume d handle fail s (parts.flatten ++ more) =
      consume d handle fail (values.foldl handle s) more := by
  induction h generalizing s with
  | nil => rfl
  | cons hfirst _ ih =>
      rw [List.flatten_cons, List.append_assoc, consume_item (hfirst _)]
      exact ih

/-! ### What has arrived of it -/

/-- The bytes are the encoded values and the beginning of one more. -/
def Holds (d : Decoder β α ε) (values : List α) (left bytes : List β) : Prop :=
  ∃ parts, List.Forall₂ (Encodes d) values parts ∧ bytes = parts.flatten ++ left ∧
    d.next left = .incomplete

theorem Encodes.ne_nil {value : α} {part : List β} (h : Encodes d value part) : part ≠ [] := by
  rintro rfl
  have hitem := h []
  rw [List.append_nil, d.next_nil] at hitem
  cases hitem

theorem Encodes.incomplete {value : α} {part bytes more : List β} (h : Encodes d value part)
    (hpart : part = bytes ++ more) (hmore : more ≠ []) : d.next bytes = .incomplete := by
  have hitem := h []
  rw [List.append_nil, hpart] at hitem
  cases hbytes : d.next bytes with
  | item other rest =>
      rw [d.item_append hbytes more] at hitem
      obtain ⟨-, hrest⟩ := Front.item.inj hitem
      exact absurd (List.append_eq_nil_iff.1 hrest).2 hmore
  | failure error =>
      rw [d.failure_append hbytes more] at hitem
      cases hitem
  | incomplete => rfl

variable (handle fail) in
/-- What has arrived of encoded values is handled up to the last whole one. -/
theorem consume_prefix {values : List α} {parts : List (List β)}
    (h : List.Forall₂ (Encodes d) values parts) {bytes : List β} (hbytes : bytes <+: parts.flatten) :
    ∃ done left, done <+: values ∧ Holds d done left bytes ∧
      ∀ s : σ, consume d handle fail s bytes = (done.foldl handle s, left) := by
  induction h generalizing bytes with
  | nil =>
      obtain rfl := List.prefix_nil.1 hbytes
      exact ⟨[], [], List.prefix_rfl, ⟨[], .nil, rfl, d.next_nil⟩,
        fun s => consume_incomplete d.next_nil⟩
  | @cons value part values parts hfirst hrest ih =>
      rw [List.flatten_cons] at hbytes
      obtain ⟨more, hpart⟩ | ⟨rest, rfl⟩ :=
        List.prefix_or_prefix_of_prefix hbytes (List.prefix_append part _)
      · by_cases hmore : more = []
        · rw [hmore, List.append_nil] at hpart
          obtain rfl := hpart
          have hitem := hfirst []
          rw [List.append_nil] at hitem
          refine ⟨[value], [], List.prefix_append [value] values, ⟨[bytes], .cons hfirst .nil, ?_,
            d.next_nil⟩, fun s => ?_⟩
          · rw [List.flatten_singleton, List.append_nil]
          · rw [consume_item hitem, consume_incomplete d.next_nil]
            rfl
        · have hincomplete := hfirst.incomplete hpart.symm hmore
          exact ⟨[], bytes, List.nil_prefix, ⟨[], .nil, rfl, hincomplete⟩,
            fun s => consume_incomplete hincomplete⟩
      · obtain ⟨done, left, hdone, ⟨doneParts, hparts, hsplit, hleft⟩, hconsume⟩ :=
          ih ((List.prefix_append_right_inj part).1 hbytes)
        refine ⟨value :: done, left, (List.prefix_cons_inj value).2 hdone,
          ⟨part :: doneParts, .cons hfirst hparts, ?_, hleft⟩, fun s => ?_⟩
        · rw [hsplit, List.flatten_cons, List.append_assoc]
        · rw [consume_item (hfirst rest), hconsume]
          rfl

theorem split_encoded {values done : List α} {parts doneParts : List (List β)} {left : List β}
    (h : List.Forall₂ (Encodes d) values parts) (hdone : List.Forall₂ (Encodes d) done doneParts)
    (hbytes : doneParts.flatten ++ left <+: parts.flatten) : ∃ later laterParts,
      values = done ++ later ∧ List.Forall₂ (Encodes d) later laterParts ∧
      parts = doneParts ++ laterParts ∧ left <+: laterParts.flatten := by
  induction hdone generalizing values parts with
  | nil => exact ⟨values, parts, rfl, h, rfl, hbytes⟩
  | @cons value part done doneParts hvalue _ ih =>
      obtain ⟨more, hmore⟩ := hbytes
      rw [List.flatten_cons, List.append_assoc, List.append_assoc] at hmore
      cases h with
      | nil => exact absurd (List.append_eq_nil_iff.1 hmore).1 hvalue.ne_nil
      | @cons first firstPart values parts hfirst hrest =>
          rw [List.flatten_cons] at hmore
          have hitem := hvalue (doneParts.flatten ++ (left ++ more))
          rw [hmore, hfirst] at hitem
          obtain ⟨rfl, hafter⟩ := Front.item.inj hitem
          rw [hafter] at hmore
          obtain rfl := List.append_cancel_right hmore
          obtain ⟨later, laterParts, rfl, hlater, rfl, hleft⟩ := ih hrest
            ⟨more, by rw [hafter, List.append_assoc]⟩
          exact ⟨later, laterParts, rfl, hlater, rfl, hleft⟩

variable (handle fail) in
theorem Holds.receive {values done : List α} {parts : List (List β)} {left bytes more : List β}
    (h : Holds d done left bytes) (hvalues : List.Forall₂ (Encodes d) values parts)
    (hmore : bytes ++ more <+: parts.flatten) : ∃ later left', done ++ later <+: values ∧
      Holds d (done ++ later) left' (bytes ++ more) ∧
      ∀ s : σ, consume d handle fail s (left ++ more) = (later.foldl handle s, left') := by
  obtain ⟨doneParts, hdone, rfl, -⟩ := h
  rw [List.append_assoc] at hmore
  obtain ⟨later, laterParts, rfl, hlater, rfl, hpre⟩ := split_encoded hvalues hdone hmore
  obtain ⟨now, left', hnow, ⟨nowParts, hparts, hsplit, hleft⟩, hconsume⟩ :=
    consume_prefix handle fail hlater hpre
  refine ⟨now, left', (List.prefix_append_right_inj done).2 hnow,
    ⟨doneParts ++ nowParts, List.rel_append hdone hparts, ?_, hleft⟩, hconsume⟩
  rw [List.append_assoc, hsplit, List.flatten_append, List.append_assoc]

theorem Holds.all {values done : List α} {parts : List (List β)} {left : List β}
    (h : Holds d done left parts.flatten) (hvalues : List.Forall₂ (Encodes d) values parts) :
    done = values ∧ left = [] := by
  obtain ⟨doneParts, hdone, hbytes, hleft⟩ := h
  obtain ⟨later, laterParts, rfl, hlater, rfl, -⟩ :=
    split_encoded hvalues hdone ⟨[], by rw [List.append_nil, hbytes]⟩
  rw [List.flatten_append] at hbytes
  obtain rfl := List.append_cancel_left hbytes
  cases hlater with
  | nil => exact ⟨(List.append_nil done).symm, rfl⟩
  | @cons value part later laterParts hvalue _ =>
      rw [List.flatten_cons, hvalue] at hleft
      cases hleft

end PvpDuel.Incremental
