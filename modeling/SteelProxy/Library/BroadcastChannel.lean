import SteelProxy.Library.KeyedMap
import SteelProxy.Library.Transition

/-!
# Broadcast channels

A channel on which every receiver gets the messages sent since it subscribed. The channel keeps
the last `capacity` messages: a receiver that has fallen further behind is told how many it has
missed and goes on with the oldest message that is kept. In every run what a receiver is given
uses up an initial part of these messages in order, and it misses a message only if `capacity`
newer ones had been sent (`delivered`).
-/

set_option autoImplicit false

namespace SteelProxy.Library

open Transition

universe u v

/-- What a receiver is given: a message, or the number of messages that it has missed. -/
inductive Reception (α : Type v) where
  | message (m : α)
  | lagged (count : Nat)
  deriving DecidableEq, Repr

/-- The message of a reception. -/
def Reception.toOption {α : Type v} : Reception α → Option α
  | .message m => some m
  | .lagged _ => none

/-- What happens on a channel with receivers `ρ` and messages `α`. -/
inductive ChannelEvent (ρ : Type u) (α : Type v) where
  | subscribed (r : ρ)
  | dropped (r : ρ)
  | sent (m : α)
  | received (r : ρ) (reception : Reception α)
  deriving DecidableEq, Repr

/-- The message that an event sends. -/
def ChannelEvent.sentMessage {ρ : Type u} {α : Type v} : ChannelEvent ρ α → Option α
  | .sent m => some m
  | _ => none

/-- The messages that have been sent, and for each receiver how many of them it is past. -/
structure BroadcastChannel (ρ : Type u) (α : Type v) where
  log : List α
  cursors : KeyedMap ρ Nat

namespace BroadcastChannel

variable {ρ : Type u} {α : Type v}

/-- The channel before anything is sent. -/
def empty : BroadcastChannel ρ α := ⟨[], ∅⟩

/-- A message is sent; without receivers it is not kept. -/
def send (ch : BroadcastChannel ρ α) (m : α) : BroadcastChannel ρ α :=
  if ch.cursors.entries.isEmpty then ch else { ch with log := ch.log ++ [m] }

theorem cursors_send (ch : BroadcastChannel ρ α) (m : α) : (ch.send m).cursors = ch.cursors := by
  unfold send
  split <;> rfl

section Operations

variable [DecidableEq ρ]

/-- A new receiver gets the messages sent from now on. -/
def subscribe (ch : BroadcastChannel ρ α) (r : ρ) : BroadcastChannel ρ α :=
  { ch with cursors := ch.cursors.insert r ch.log.length }

/-- A receiver is dropped. -/
def drop (ch : BroadcastChannel ρ α) (r : ρ) : BroadcastChannel ρ α :=
  { ch with cursors := ch.cursors.erase r }

/-- What the receiver is given next, and how many messages it is past then. -/
def next (capacity : Nat) (ch : BroadcastChannel ρ α) (r : ρ) : Option (Reception α × Nat) :=
  match ch.cursors.lookup r with
  | none => none
  | some c =>
      if c + capacity < ch.log.length then
        -- the message after the cursor is no longer kept
        some (.lagged (ch.log.length - capacity - c), ch.log.length - capacity)
      else
        ch.log[c]?.map fun m => (.message m, c + 1)

/-- The channel after an event; `none` when the event cannot happen. -/
def after [DecidableEq α] (capacity : Nat) (ch : BroadcastChannel ρ α) :
    ChannelEvent ρ α → Option (BroadcastChannel ρ α)
  | .subscribed r => some (ch.subscribe r)
  | .dropped r => some (ch.drop r)
  | .sent m => some (ch.send m)
  | .received r reception =>
      match ch.next capacity r with
      | none => none
      | some (reception', c) =>
          if reception' = reception then some { ch with cursors := ch.cursors.insert r c }
          else none

/-- The channel as a transition system whose events are its labels. -/
def system [DecidableEq α] (capacity : Nat) :
    System (BroadcastChannel ρ α) (ChannelEvent ρ α) (ChannelEvent ρ α) :=
  ⟨fun ch e => (ch.after capacity e).map fun ch' => (ch', [e])⟩

/-! ## What a receiver should get -/

/-- The messages since the receiver subscribed, after one more event. -/
def trackSent (r : ρ) (sent : List α) : ChannelEvent ρ α → List α
  | .subscribed r' => if r' = r then [] else sent
  | .sent m => sent ++ [m]
  | _ => sent

/-- The messages that have been sent since the receiver subscribed last. -/
def sentSince (r : ρ) (tr : List (ChannelEvent ρ α)) : List α := tr.foldl (trackSent r) []

/-- What the receiver was given since it subscribed, after one more event. -/
def trackGiven (r : ρ) (given : List (Reception α)) : ChannelEvent ρ α → List (Reception α)
  | .subscribed r' => if r' = r then [] else given
  | .received r' reception => if r' = r then given ++ [reception] else given
  | _ => given

/-- What the receiver has been given since it subscribed last. -/
def given (r : ρ) (tr : List (ChannelEvent ρ α)) : List (Reception α) :=
  tr.foldl (trackGiven r) []

theorem sentSince_append_one (r : ρ) (tr : List (ChannelEvent ρ α)) (e : ChannelEvent ρ α) :
    sentSince r (tr ++ [e]) = trackSent r (sentSince r tr) e := by
  simp [sentSince]

theorem given_append_one (r : ρ) (tr : List (ChannelEvent ρ α)) (e : ChannelEvent ρ α) :
    given r (tr ++ [e]) = trackGiven r (given r tr) e := by
  simp [given]

end Operations

/-- What a receiver was given uses up the first `used` of the messages sent, in order; a message
is missed only if `capacity` newer ones have been sent. -/
inductive Delivered (capacity : Nat) (sent : List α) : List (Reception α) → Nat → Prop where
  | nothing : Delivered capacity sent [] 0
  | message {given : List (Reception α)} {used : Nat} (m : α)
      (before : Delivered capacity sent given used) (hm : sent[used]? = some m) :
      Delivered capacity sent (given ++ [.message m]) (used + 1)
  | lagged {given : List (Reception α)} {used : Nat} (count : Nat)
      (before : Delivered capacity sent given used) (hcount : 0 < count)
      (hnewer : used + count + capacity ≤ sent.length) :
      Delivered capacity sent (given ++ [.lagged count]) (used + count)

/-- The messages among what a receiver was given. -/
def messages (given : List (Reception α)) : List α :=
  given.filterMap Reception.toOption

section Delivered

variable {capacity used : Nat} {sent : List α} {given : List (Reception α)}

theorem messages_append (given given' : List (Reception α)) :
    messages (given ++ given') = messages given ++ messages given' :=
  List.filterMap_append

/-- What is sent later does not matter. -/
theorem Delivered.append (h : Delivered capacity sent given used) (later : List α) :
    Delivered capacity (sent ++ later) given used := by
  induction h with
  | nothing => exact .nothing
  | message m before hm ih =>
      refine .message m ih ?_
      have hlt : _ < sent.length := (List.getElem?_eq_some_iff.1 hm).1
      rw [List.getElem?_append_left hlt, hm]
  | lagged count before hcount hnewer ih =>
      refine .lagged count ih hcount ?_
      rw [List.length_append]
      omega

theorem Delivered.used_le (h : Delivered capacity sent given used) : used ≤ sent.length := by
  cases h with
  | nothing => exact Nat.zero_le _
  | message m before hm => exact (List.getElem?_eq_some_iff.1 hm).1
  | lagged count before hcount hnewer => omega

/-- A receiver gets messages in the order in which they were sent, each at most once. -/
theorem Delivered.messages_sublist (h : Delivered capacity sent given used) :
    (messages given).Sublist (sent.take used) := by
  induction h with
  | nothing => exact List.Sublist.refl _
  | message m before hm ih =>
      rw [messages_append, List.take_add_one, hm]
      exact ih.append (List.Sublist.refl _)
  | @lagged given used count before hcount hnewer ih =>
      rw [messages_append]
      have htake : (sent.take used).Sublist (sent.take (used + count)) :=
        (List.take_prefix_take_left (Nat.le_add_right used count)).sublist
      have hnone : messages ([.lagged count] : List (Reception α)) = [] := rfl
      rw [hnone, List.append_nil]
      exact ih.trans htake

/-- A receiver that never lags gets every message. -/
theorem Delivered.messages_eq_take (h : Delivered capacity sent given used)
    (hnever : ∀ count, .lagged count ∉ given) : messages given = sent.take used := by
  induction h with
  | nothing => rfl
  | message m before hm ih =>
      have hbefore := ih fun count hmem => hnever count (List.mem_append_left _ hmem)
      rw [messages_append, hbefore, List.take_add_one, hm]
      rfl
  | lagged count before hcount hnewer ih =>
      exact absurd (List.mem_append_right _ (List.mem_singleton_self _)) (hnever count)

end Delivered

/-! ## Runs -/

section Runs

variable [DecidableEq ρ] {capacity : Nat} {ch ch' : BroadcastChannel ρ α} {r : ρ}

/-- What the receiver was given is delivered, and its cursor stands behind it. -/
structure Follows (capacity : Nat) (ch : BroadcastChannel ρ α) (r : ρ)
    (tr : List (ChannelEvent ρ α)) (used : Nat) : Prop where
  delivered : Delivered capacity (sentSince r tr) (given r tr) used
  cursor : ∀ c, ch.cursors.lookup r = some c →
    ∃ base, c = base + used ∧ base ≤ ch.log.length ∧ sentSince r tr = ch.log.drop base

theorem isEmpty_entries_of_lookup {c : Nat} (h : ch.cursors.lookup r = some c) :
    ch.cursors.entries.isEmpty = false := by
  have hmem := AList.mem_lookup_iff.1 h
  cases hentries : ch.cursors.entries with
  | nil =>
      rw [hentries] at hmem
      cases hmem
  | cons e entries => rfl

/-- A receiver in the middle of the log has something to get. -/
theorem isSome_next {c : Nat} (hc : ch.cursors.lookup r = some c) (hlt : c < ch.log.length) :
    (ch.next capacity r).isSome = true := by
  simp only [next, hc]
  split
  · rfl
  · simp [List.getElem?_eq_getElem hlt]

/-- A reception moves the cursor on, at most to the end of the log. -/
theorem lookup_of_next {reception : Reception α} {c' : Nat}
    (hnext : ch.next capacity r = some (reception, c')) :
    ∃ c, ch.cursors.lookup r = some c ∧ c < c' ∧ c' ≤ ch.log.length := by
  unfold next at hnext
  cases hlookup : ch.cursors.lookup r with
  | none =>
      rw [hlookup] at hnext
      cases hnext
  | some c =>
      simp only [hlookup] at hnext
      refine ⟨c, rfl, ?_⟩
      split at hnext
      · simp only [Option.some.injEq, Prod.mk.injEq] at hnext
        omega
      · obtain ⟨m, hm, heq⟩ := Option.map_eq_some_iff.1 hnext
        have hlt : c < ch.log.length := (List.getElem?_eq_some_iff.1 hm).1
        simp only [Prod.mk.injEq] at heq
        omega

/-- A receiver that is given nothing has used up what was sent. -/
theorem Follows.delivered_all {tr : List (ChannelEvent ρ α)} {used c : Nat}
    (h : Follows capacity ch r tr used) (hc : ch.cursors.lookup r = some c)
    (hnext : ch.next capacity r = none) :
    Delivered capacity (sentSince r tr) (given r tr) (sentSince r tr).length := by
  -- a cursor before the end of the log would be given something
  have hend : ch.log.length ≤ c := by
    by_contra hlt
    have hsome : (ch.next capacity r).isSome = true := isSome_next hc (Nat.lt_of_not_le hlt)
    rw [hnext] at hsome
    cases hsome
  obtain ⟨base, rfl, hbase, hsent⟩ := h.cursor c hc
  have hused : used = (sentSince r tr).length := by
    have hle := h.delivered.used_le
    rw [hsent, List.length_drop] at hle ⊢
    omega
  rw [← hused]
  exact h.delivered

/-- What is given next uses up messages that were not used yet. -/
theorem Follows.next {tr : List (ChannelEvent ρ α)} {used c : Nat} {reception : Reception α}
    (h : Follows capacity ch r tr used) (hnext : ch.next capacity r = some (reception, c)) :
    ∃ base used', c = base + used' ∧ base ≤ ch.log.length ∧
      sentSince r tr = ch.log.drop base ∧
      Delivered capacity (sentSince r tr) (given r tr ++ [reception]) used' := by
  unfold BroadcastChannel.next at hnext
  cases hlookup : ch.cursors.lookup r with
  | none =>
      rw [hlookup] at hnext
      cases hnext
  | some cursor =>
      obtain ⟨base, rfl, hbase, hsent⟩ := h.cursor cursor hlookup
      simp only [hlookup] at hnext
      have hlength : (sentSince r tr).length = ch.log.length - base := by
        rw [hsent, List.length_drop]
      split at hnext
      -- behind what is kept: the cursor jumps to the oldest message that is
      · rename_i hbehind
        simp only [Option.some.injEq, Prod.mk.injEq] at hnext
        obtain ⟨rfl, rfl⟩ := hnext
        refine ⟨base, used + (ch.log.length - capacity - (base + used)), ?_, hbase, hsent, ?_⟩
        · omega
        · refine .lagged _ h.delivered ?_ ?_
          · omega
          · omega
      · obtain ⟨m, hm, heq⟩ := Option.map_eq_some_iff.1 hnext
        simp only [Prod.mk.injEq] at heq
        obtain ⟨rfl, rfl⟩ := heq
        refine ⟨base, used + 1, by omega, hbase, hsent, .message m h.delivered ?_⟩
        rw [hsent, List.getElem?_drop, hm]

variable [DecidableEq α]

theorem after_received_iff {reception : Reception α} :
    ch.after capacity (.received r reception) = some ch' ↔
      ∃ c, ch.next capacity r = some (reception, c) ∧
        ch' = { ch with cursors := ch.cursors.insert r c } := by
  simp only [after]
  cases ch.next capacity r with
  | none => simp
  | some p =>
      obtain ⟨reception', c⟩ := p
      by_cases heq : reception' = reception
      · simp [heq, eq_comm]
      · simp [heq]

/-- What one event does to a receiver. -/
theorem Follows.after {tr : List (ChannelEvent ρ α)} {used : Nat} {e : ChannelEvent ρ α}
    (h : Follows capacity ch r tr used) (hafter : ch.after capacity e = some ch') :
    ∃ used', Follows capacity ch' r (tr ++ [e]) used' := by
  cases e with
  | subscribed r' =>
      cases hafter
      by_cases hr : r' = r
      · -- from here on nothing has been sent, and nothing given
        refine ⟨0, ?_, ?_⟩
        · rw [sentSince_append_one, given_append_one, trackSent, trackGiven, if_pos hr, if_pos hr]
          exact .nothing
        · intro c hc
          simp only [subscribe, hr, AList.lookup_insert, Option.some.injEq] at hc
          refine ⟨ch.log.length, by omega, Nat.le_refl _, ?_⟩
          rw [sentSince_append_one, trackSent, if_pos hr, subscribe, List.drop_length]
      · refine ⟨used, ?_, ?_⟩
        · rw [sentSince_append_one, given_append_one, trackSent, trackGiven, if_neg hr, if_neg hr]
          exact h.delivered
        · intro c hc
          rw [subscribe, AList.lookup_insert_ne (Ne.symm hr)] at hc
          rw [sentSince_append_one, trackSent, if_neg hr]
          exact h.cursor c hc
  | dropped r' =>
      cases hafter
      refine ⟨used, ?_, ?_⟩
      · rw [sentSince_append_one, given_append_one]
        exact h.delivered
      · intro c hc
        rw [drop, KeyedMap.lookup_erase_ite] at hc
        split at hc
        · cases hc
        · rw [sentSince_append_one]
          exact h.cursor c hc
  | sent m =>
      cases hafter
      refine ⟨used, ?_, ?_⟩
      · rw [sentSince_append_one, given_append_one]
        exact h.delivered.append [m]
      · intro c hc
        rw [cursors_send] at hc
        -- the channel has a receiver, so the message is kept
        rw [send, if_neg (by simp [isEmpty_entries_of_lookup hc])]
        obtain ⟨base, rfl, hbase, hsent⟩ := h.cursor c hc
        refine ⟨base, rfl, ?_, ?_⟩
        · rw [List.length_append]
          omega
        · rw [sentSince_append_one, trackSent, hsent, List.drop_append_of_le_length hbase]
  | received r' reception =>
      obtain ⟨c, hnext, rfl⟩ := after_received_iff.1 hafter
      by_cases hr : r' = r
      · subst hr
        obtain ⟨base, used', rfl, hbase, hsent, hdelivered⟩ := h.next hnext
        -- the cursor moves, the place where the receiver subscribed does not
        refine ⟨used', ?_, ?_⟩
        · rw [sentSince_append_one, given_append_one, trackGiven, if_pos rfl]
          exact hdelivered
        · intro c hc
          simp only [AList.lookup_insert, Option.some.injEq] at hc
          rw [sentSince_append_one]
          exact ⟨base, hc.symm, hbase, hsent⟩
      · refine ⟨used, ?_, ?_⟩
        · rw [sentSince_append_one, given_append_one, trackGiven, if_neg hr]
          exact h.delivered
        · intro c hc
          simp only [AList.lookup_insert_ne (Ne.symm hr)] at hc
          rw [sentSince_append_one]
          exact h.cursor c hc

/-- Whether the receiver is subscribed, after one more event. -/
def trackMember (r : ρ) (member : Bool) : ChannelEvent ρ α → Bool
  | .subscribed r' => if r' = r then true else member
  | .dropped r' => if r' = r then false else member
  | _ => member

theorem isSome_lookup_after {e : ChannelEvent ρ α} (h : ch.after capacity e = some ch') :
    (ch'.cursors.lookup r).isSome = trackMember r (ch.cursors.lookup r).isSome e := by
  cases e with
  | subscribed r' =>
      cases h
      rw [subscribe, KeyedMap.lookup_insert_ite, trackMember]
      by_cases hr : r' = r
      · simp [hr]
      · rw [if_neg (Ne.symm hr), if_neg hr]
  | dropped r' =>
      cases h
      rw [drop, KeyedMap.lookup_erase_ite, trackMember]
      by_cases hr : r' = r
      · simp [hr]
      · rw [if_neg (Ne.symm hr), if_neg hr]
  | sent m =>
      cases h
      rw [cursors_send]
      rfl
  | received r' reception =>
      obtain ⟨c, hnext, rfl⟩ := after_received_iff.1 h
      change ((ch.cursors.insert r' c).lookup r).isSome = (ch.cursors.lookup r).isSome
      rw [KeyedMap.lookup_insert_ite]
      split
      · -- only a subscribed receiver is given something
        rename_i heq
        subst heq
        unfold next at hnext
        cases hlookup : ch.cursors.lookup r with
        | none =>
            rw [hlookup] at hnext
            cases hnext
        | some c => rfl
      · rfl

theorem isSome_lookup_exec {es tr : List (ChannelEvent ρ α)}
    (hrun : (system capacity).exec ch es = some (ch', tr)) :
    (ch'.cursors.lookup r).isSome =
      es.foldl (trackMember r) (ch.cursors.lookup r).isSome := by
  induction es generalizing ch tr with
  | nil =>
      simp only [System.exec_nil, Option.some.injEq, Prod.mk.injEq] at hrun
      rw [← hrun.1, List.foldl_nil]
  | cons e es ih =>
      obtain ⟨m, t₁, t₂, hstep, hrest, -⟩ := (System.exec_cons_iff _).1 hrun
      obtain ⟨ch₁, hafter, heq⟩ := Option.map_eq_some_iff.1 hstep
      cases heq
      rw [ih hrest, isSome_lookup_after hafter, List.foldl_cons]

/-- The events of a run are its labels. -/
theorem exec_events {es tr : List (ChannelEvent ρ α)}
    (hrun : (system capacity).exec ch es = some (ch', tr)) : tr = es := by
  induction es generalizing ch tr with
  | nil =>
      simp only [System.exec_nil, Option.some.injEq, Prod.mk.injEq] at hrun
      exact hrun.2.symm
  | cons e es ih =>
      obtain ⟨m, t₁, t₂, hstep, hrest, rfl⟩ := (System.exec_cons_iff _).1 hrun
      obtain ⟨ch₁, -, heq⟩ := Option.map_eq_some_iff.1 hstep
      cases heq
      rw [ih hrest, List.singleton_append]

/-- In every run of a channel from the start, every receiver is followed. -/
theorem follows_exec {es tr : List (ChannelEvent ρ α)}
    (hrun : (system capacity).exec empty es = some (ch, tr)) (r : ρ) :
    ∃ used, Follows capacity ch r tr used := by
  refine @System.exec_invariant _ _ _ (system capacity) (fun _ _ => True)
    (fun ch tr => ∃ used, Follows capacity ch r tr used) ?_ es empty ch [] tr ?_
    (System.meets_of_forall _ (by simp) _) hrun
  · rintro ch tr e ch' t ⟨used, h⟩ - hstep
    obtain ⟨ch₁, hafter, heq⟩ := Option.map_eq_some_iff.1 hstep
    cases heq
    exact h.after hafter
  · exact ⟨0, .nothing, fun c hc => by cases hc⟩

/-- In every run of a channel, what a receiver was given since it subscribed is an initial part of
what was sent since then, in order, without messages that it missed for lagging. -/
theorem delivered {es tr : List (ChannelEvent ρ α)}
    (hrun : (system capacity).exec empty es = some (ch, tr)) (r : ρ) :
    ∃ used, Delivered capacity (sentSince r tr) (given r tr) used := by
  obtain ⟨used, h⟩ := follows_exec hrun r
  exact ⟨used, h.delivered⟩

end Runs

end BroadcastChannel

end SteelProxy.Library
