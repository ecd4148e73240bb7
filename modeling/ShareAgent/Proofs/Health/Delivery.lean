import Mathlib.Data.List.Basic
import Mathlib.Data.List.Induction
import ShareAgent.Health.Stream

/-! # What a stream brings to its consumer

A stream has room for one update.  So what the consumer receives is determined by where he asks and
where the loop ticks: each receipt brings the update of the first tick since the receipt before, and
comes as soon as the consumer asks after that tick (`Receipts`).  Later ticks find the channel full
and their updates are lost, also for every later receipt (`lost_of_full`).  The loop ends at the
first tick without a consumer and for no other reason (`ended_iff`).

All this holds of every order of events.  Streams beside each other do not meet (`Hall.run_apply`).
-/
namespace ShareAgent.Health

/-- What can happen to a stream. -/
inductive Happening
  | tick
  | receive
  | drop
  deriving DecidableEq, Repr

namespace Stream

variable {α : Type}

/-- Everything that a tick can do. -/
theorem tick_cases (s : Stream α) (x : α) :
    (s.ended ∧ s.tick x = s) ∨
    (s.ended = false ∧ s.channel.closed ∧ s.tick x = ⟨s.channel, s.ticks + 1, true⟩) ∨
    (s.ended = false ∧ s.channel.closed = false ∧ s.channel.isFull ∧
      s.tick x = ⟨s.channel, s.ticks + 1, false⟩) ∨
    (s.ended = false ∧ s.channel.closed = false ∧ s.channel.isFull = false ∧
      s.tick x =
        ⟨{ s.channel with items := s.channel.items ++ [x] }, s.ticks + 1, false⟩) := by
  cases hended : s.ended with
  | true => exact .inl ⟨rfl, by simp [tick, hended]⟩
  | false =>
    cases hclosed : s.channel.closed with
    | true => exact .inr (.inl ⟨rfl, rfl, by simp [tick, Channel.offer, hended, hclosed]⟩)
    | false =>
      cases hfull : s.channel.isFull with
      | true =>
        refine .inr (.inr (.inl ⟨rfl, rfl, rfl, ?_⟩))
        simp [tick, Channel.offer, hended, hclosed, hfull]
      | false =>
        refine .inr (.inr (.inr ⟨rfl, rfl, rfl, ?_⟩))
        simp [tick, Channel.offer, hended, hclosed, hfull]

theorem tick_closed (s : Stream α) (x : α) : (s.tick x).channel.closed = s.channel.closed := by
  obtain ⟨-, h⟩ | ⟨-, -, h⟩ | ⟨-, -, -, h⟩ | ⟨-, -, -, h⟩ := s.tick_cases x <;> rw [h]

/-- A tick ends the loop exactly if the consumer is gone. -/
theorem tick_ended (s : Stream α) (x : α) :
    (s.tick x).ended = (s.ended || s.channel.closed) := by
  obtain ⟨hended, h⟩ | ⟨hended, hclosed, h⟩ | ⟨hended, hclosed, -, h⟩ | ⟨hended, hclosed, -, h⟩ :=
    s.tick_cases x <;> simp [*]

/-- Asking takes the oldest item out. -/
theorem receive_eq (s : Stream α) : s.receive = (s.channel.items.head?,
    { s with channel := { s.channel with items := s.channel.items.tail } }) := by
  obtain ⟨⟨capacity, items, closed⟩, ticks, ended⟩ := s
  cases items <;> rfl

/-- The stream after an event; `item` says what each tick offers. -/
def after (item : Nat → α) (s : Stream α) : Happening → Stream α
  | .tick => s.tick (item s.ticks)
  | .receive => s.receive.2
  | .drop => s.drop

/-- What an event gives to the consumer. -/
def gives (s : Stream α) : Happening → List α
  | .receive => s.receive.1.toList
  | _ => []

theorem after_closed (item : Nat → α) (s : Stream α) (e : Happening) :
    (s.after item e).channel.closed = (s.channel.closed || e == .drop) := by
  cases e with
  | tick => simp [after, tick_closed]
  | receive => simp [after, receive_eq]
  | drop => simp [after, drop, Channel.close]

/-- The channel never holds more than one update, and none for a consumer who is gone. -/
structure Narrow (s : Stream α) : Prop where
  capacity : s.channel.capacity = 1
  length : s.channel.items.length ≤ 1
  gone : s.channel.closed → s.channel.items = []

theorem Narrow.after {s : Stream α} (hs : s.Narrow) (item : Nat → α) (e : Happening) :
    (s.after item e).Narrow := by
  obtain ⟨hcapacity, hlength, hgone⟩ := hs
  cases e with
  | tick =>
    show (s.tick _).Narrow
    obtain ⟨-, h⟩ | ⟨-, -, h⟩ | ⟨-, -, -, h⟩ | ⟨-, hopen, hroom, h⟩ :=
      s.tick_cases (item s.ticks) <;> rw [h]
    · exact ⟨hcapacity, hlength, hgone⟩
    · exact ⟨hcapacity, hlength, hgone⟩
    · exact ⟨hcapacity, hlength, hgone⟩
    · refine ⟨hcapacity, ?_, fun hclosed => absurd hclosed (by simp [hopen])⟩
      have hempty := of_decide_eq_false hroom
      rw [List.length_append, List.length_singleton]
      omega
  | receive =>
    show s.receive.2.Narrow
    rw [receive_eq]
    refine ⟨hcapacity, ?_, fun hclosed => ?_⟩
    · rw [List.length_tail]
      omega
    · rw [hgone hclosed, List.tail_nil]
  | drop => exact ⟨hcapacity, Nat.zero_le 1, fun _ => rfl⟩

theorem Narrow.ne_nil_of_isFull {s : Stream α} (hs : s.Narrow) (hfull : s.channel.isFull) :
    s.channel.items ≠ [] := by
  intro hitems
  have hroom := of_decide_eq_true hfull
  rw [hs.capacity, hitems] at hroom
  exact Nat.not_succ_le_zero 0 hroom

/-- Nothing is given to a consumer who is gone. -/
theorem Narrow.gives_of_closed {s : Stream α} (hs : s.Narrow) (hclosed : s.channel.closed)
    (e : Happening) : s.gives e = [] := by
  cases e <;> simp [gives, receive_eq, hs.gone hclosed]

end Stream

/-- A stream with what its consumer has received, the earliest first. -/
structure Delivery (α : Type) where
  stream : Stream α
  received : List α

namespace Delivery

variable {α β : Type} {item : Nat → α} {h h' : List Happening} {d : Delivery α} {e : Happening}

/-- Before the first event. -/
def fresh : Delivery α := ⟨.fresh, []⟩

/-- The delivery after an event. -/
def after (item : Nat → α) (d : Delivery α) (e : Happening) : Delivery α :=
  ⟨d.stream.after item e, d.received ++ d.stream.gives e⟩

/-- The delivery after some events. -/
def run (item : Nat → α) (h : List Happening) : Delivery α := h.foldl (after item) fresh

theorem run_append : run item (h ++ h') = h'.foldl (after item) (run item h) :=
  List.foldl_append

theorem run_concat : run item (h ++ [e]) = (run item h).after item e := run_append

theorem received_after_tick (item : Nat → α) (d : Delivery α) :
    (d.after item .tick).received = d.received :=
  List.append_nil _

theorem received_after_drop (item : Nat → α) (d : Delivery α) :
    (d.after item .drop).received = d.received :=
  List.append_nil _

theorem foldl_stream (h : List Happening) (d : Delivery α) :
    (h.foldl (after item) d).stream = h.foldl (Stream.after item) d.stream := by
  induction h generalizing d with
  | nil => rfl
  | cons e h ih => exact ih (d.after item e)

/-- Nothing is received unless the consumer asks. -/
theorem received_foldl (hquiet : .receive ∉ h) (d : Delivery α) :
    (h.foldl (after item) d).received = d.received := by
  induction h generalizing d with
  | nil => rfl
  | cons e h ih =>
    have hgives : d.stream.gives e = [] := by
      cases e with
      | receive => exact (hquiet (.head _)).elim
      | tick => rfl
      | drop => rfl
    have hh : .receive ∉ h := fun hmem => hquiet (.tail _ hmem)
    rw [List.foldl_cons, ih hh, after, hgives, List.append_nil]

/-! ## Ticks without names

What a stream does depends on the numbers of its ticks only, not on what they offer. -/

/-- The delivery with another item in place of each. -/
def map (f : α → β) (d : Delivery α) : Delivery β :=
  ⟨{ d.stream with channel := { d.stream.channel with items := d.stream.channel.items.map f } },
    d.received.map f⟩

theorem map_after (f : α → β) (d : Delivery α) (e : Happening) :
    (d.after item e).map f = (d.map f).after (f ∘ item) e := by
  obtain ⟨⟨⟨capacity, items, closed⟩, ticks, ended⟩, received⟩ := d
  cases e with
  | tick =>
    cases ended with
    | true => simp [map, after, Stream.after, Stream.gives, Stream.tick]
    | false =>
      cases closed with
      | true => simp [map, after, Stream.after, Stream.gives, Stream.tick, Channel.offer]
      | false =>
        by_cases hfull : capacity ≤ items.length <;>
          simp [map, after, Stream.after, Stream.gives, Stream.tick, Channel.offer,
            Channel.isFull, hfull]
  | receive =>
    cases items <;> simp [map, after, Stream.after, Stream.gives, Stream.receive_eq]
  | drop => simp [map, after, Stream.after, Stream.gives, Stream.drop, Channel.close]

theorem run_map (f : α → β) (h : List Happening) : (run item h).map f = run (f ∘ item) h := by
  induction h using List.reverseRecOn with
  | nil => rfl
  | append_singleton h e ih => rw [run_concat, map_after, ih, run_concat]

/-- The numbers of the ticks whose updates have been received. -/
def numbers (h : List Happening) : List Nat := (run id h).received

theorem received_eq (h : List Happening) : (run item h).received = (numbers h).map item :=
  congrArg received (run_map item h).symm

/-- What waits was offered by a tick. -/
theorem exists_of_mem_items {x : α} (hx : x ∈ (run item h).stream.channel.items) :
    ∃ n, item n = x := by
  have hmap : run item h = (run id h).map item := (run_map item h).symm
  rw [hmap] at hx
  obtain ⟨n, -, hn⟩ := List.mem_map.mp hx
  exact ⟨n, hn⟩

/-! ## Consumers that go -/

theorem closed_iff : (run item h).stream.channel.closed ↔ .drop ∈ h := by
  induction h using List.reverseRecOn with
  | nil => simp [run, fresh, Stream.fresh, Channel.ofCapacity]
  | append_singleton h e ih =>
    rw [run_concat, after, Stream.after_closed, Bool.or_eq_true, ih, beq_iff_eq,
      List.mem_append, List.mem_singleton, eq_comm (a := e)]

/-- Where an event can be found in a longer history: where it was, or at the end. -/
theorem exists_split_concat {p : List Happening → Prop} {a : Happening} :
    (∃ before later, h ++ [e] = before ++ a :: later ∧ p before) ↔
      (∃ before later, h = before ++ a :: later ∧ p before) ∨ e = a ∧ p h := by
  constructor
  · rintro ⟨before, later, heq, hp⟩
    obtain rfl | ⟨later, last, rfl⟩ := List.eq_nil_or_concat' later
    · obtain ⟨rfl, hlast⟩ := List.append_inj' heq rfl
      exact .inr ⟨List.singleton_inj.mp hlast, hp⟩
    · rw [← List.cons_append, ← List.append_assoc] at heq
      obtain ⟨rfl, -⟩ := List.append_inj' heq rfl
      exact .inl ⟨before, later, rfl, hp⟩
  · rintro (⟨before, later, rfl, hp⟩ | ⟨rfl, hp⟩)
    · exact ⟨before, later ++ [e], by simp, hp⟩
    · exact ⟨h, [], rfl, hp⟩

/-- **A loop is alive until the first tick after its consumer is gone**: a full channel does not end
it. -/
theorem ended_iff : (run item h).stream.ended ↔
    ∃ before later, h = before ++ .tick :: later ∧ .drop ∈ before := by
  induction h using List.reverseRecOn with
  | nil => simp [run, fresh, Stream.fresh]
  | append_singleton h e ih =>
    rw [exists_split_concat, ← ih, run_concat]
    cases e with
    | tick => simp [after, Stream.after, Stream.tick_ended, closed_iff]
    | receive => simp [after, Stream.after, Stream.receive]
    | drop => simp [after, Stream.after, Stream.drop]

theorem narrow_run (item : Nat → α) (h : List Happening) : (run item h).stream.Narrow := by
  induction h using List.reverseRecOn with
  | nil => exact ⟨rfl, Nat.zero_le 1, fun _ => rfl⟩
  | append_singleton h e ih =>
    rw [run_concat]
    exact ih.after item e

theorem not_mem_drop_of_isFull (hfull : (run item h).stream.channel.isFull) : .drop ∉ h := by
  have hnarrow := narrow_run item h
  exact fun hdrop => hnarrow.ne_nil_of_isFull hfull (hnarrow.gone (closed_iff.mpr hdrop))

/-- A consumer who is gone receives nothing more. -/
theorem received_foldl_of_closed (hs : d.stream.Narrow) (hclosed : d.stream.channel.closed)
    (h : List Happening) : (h.foldl (after item) d).received = d.received := by
  induction h generalizing d with
  | nil => rfl
  | cons e h ih =>
    have hnext : (d.after item e).stream.channel.closed := by
      rw [after, Stream.after_closed, hclosed, Bool.true_or]
    rw [List.foldl_cons, ih (hs.after item e) hnext, after, hs.gives_of_closed hclosed,
      List.append_nil]

theorem received_append_drop (h away : List Happening) :
    (run item (h ++ .drop :: away)).received = (run item h).received := by
  rw [run_append, List.foldl_cons,
    received_foldl_of_closed ((narrow_run item h).after item .drop) rfl, received_after_drop]

/-! ## Receipts -/

/-- A history up to a receipt, and the numbers of the ticks whose updates were received.  An update
is that of the first tick after the receipt before, and it is received when the consumer asks for
the first time after that tick. -/
inductive Receipts : List Happening → List Nat → Prop
  | none : Receipts [] []
  | next {past front back : List Happening} {ticks : List Nat} (hpast : Receipts past ticks)
      (hfront : .tick ∉ front) (hback : .receive ∉ back) (hdrop : .drop ∉ front ++ back) :
      Receipts (past ++ front ++ .tick :: back ++ [.receive]) (ticks ++ [past.count .tick])

/-- What has happened since the last receipt brings none: whoever asks is early, or gone before. -/
def Unserved (idle : List Happening) : Prop :=
  ∀ before later, idle = before ++ .receive :: later → .tick ∉ before ∨ .drop ∈ before

namespace Receipts

variable {past : List Happening} {ticks : List Nat}

/-- Whatever was received was offered before. -/
theorem lt_count (hr : Receipts past ticks) : ∀ n ∈ ticks, n < past.count .tick := by
  induction hr with
  | none => exact List.forall_mem_nil _
  | @next past front back ticks _ _ _ _ ih =>
    intro n hn
    rw [List.count_append, List.count_append, List.count_append, List.count_cons_self]
    obtain hn | hn := List.mem_append.mp hn
    · have := ih n hn
      omega
    · have := List.mem_singleton.mp hn
      omega

/-- **No update is received twice**, and none before an earlier one. -/
theorem increasing (hr : Receipts past ticks) : ticks.Pairwise (· < ·) := by
  induction hr with
  | none => exact .nil
  | next hpast _ _ _ ih =>
    refine List.pairwise_append.mpr ⟨ih, List.pairwise_singleton _ _, ?_⟩
    intro n hn m hm
    exact (List.mem_singleton.mp hm) ▸ hpast.lt_count n hn

end Receipts

/-- Where a stream stands whose consumer is there. -/
inductive Attended : List Happening → Delivery Nat → Prop
  /-- Nothing waits for the consumer. -/
  | idle {past idle : List Happening} {ticks : List Nat} (hpast : Receipts past ticks)
      (htick : .tick ∉ idle) (hdrop : .drop ∉ idle) :
      Attended (past ++ idle) ⟨⟨⟨1, [], false⟩, (past ++ idle).count .tick, false⟩, ticks⟩
  /-- The update of the first tick since the last receipt waits. -/
  | pending {past front back : List Happening} {ticks : List Nat} (hpast : Receipts past ticks)
      (hfront : .tick ∉ front) (hback : .receive ∉ back) (hdrop : .drop ∉ front ++ back) :
      Attended (past ++ front ++ .tick :: back) ⟨⟨⟨1, [past.count .tick], false⟩,
        (past ++ front ++ .tick :: back).count .tick, false⟩, ticks⟩

namespace Attended

variable {d : Delivery Nat}

theorem after_tick (ha : Attended h d) : Attended (h ++ [.tick]) (d.after id .tick) := by
  cases ha with
  | @idle past idle ticks hpast htick hdrop =>
    have hnext := pending hpast htick (List.not_mem_nil (a := Happening.receive))
      (by rwa [List.append_nil])
    simpa [after, Stream.after, Stream.gives, Stream.tick, Channel.offer, Channel.isFull,
      List.count_eq_zero_of_not_mem htick] using hnext
  | @pending past front back ticks hpast hfront hback hdrop =>
    have hback : .receive ∉ back ++ [.tick] := by simpa using hback
    have hnext := pending hpast hfront hback (by simpa using hdrop)
    simpa [after, Stream.after, Stream.gives, Stream.tick, Channel.offer, Channel.isFull,
      Nat.add_assoc] using hnext

theorem after_receive (ha : Attended h d) :
    Attended (h ++ [.receive]) (d.after id .receive) := by
  cases ha with
  | @idle past idle ticks hpast htick hdrop =>
    have htick : .tick ∉ idle ++ [.receive] := by simpa using htick
    have hnext := Attended.idle hpast htick (by simpa using hdrop)
    simpa [after, Stream.after, Stream.gives, Stream.receive, Channel.take] using hnext
  | @pending past front back ticks hpast hfront hback hdrop =>
    have hnext := Attended.idle (hpast.next hfront hback hdrop)
      (List.not_mem_nil (a := Happening.tick)) List.not_mem_nil
    simpa [after, Stream.after, Stream.gives, Stream.receive, Channel.take] using hnext

end Attended

theorem attended_run (hdrop : .drop ∉ h) : Attended h (run id h) := by
  induction h using List.reverseRecOn with
  | nil => exact .idle .none List.not_mem_nil List.not_mem_nil
  | append_singleton h e ih =>
    have hd := ih fun hmem => hdrop (List.mem_append_left _ hmem)
    rw [run_concat]
    cases e with
    | tick => exact hd.after_tick
    | receive => exact hd.after_receive
    | drop => exact (hdrop (by simp)).elim

theorem unserved_of_not_mem {idle : List Happening} (h : .tick ∉ idle) : Unserved idle := by
  intro before later heq
  refine .inl fun hmem => h ?_
  rw [heq]
  exact List.mem_append_left _ hmem

/-- What follows a first occurrence includes what follows any other. -/
theorem suffix_of_append_cons_eq {x : α} {front back front' back' : List α}
    (heq : front ++ x :: back = front' ++ x :: back') (hfront : x ∉ front) : back' <:+ back := by
  obtain ⟨c, rfl, hc⟩ | ⟨c, rfl, hc⟩ := List.append_eq_append_iff.mp heq
  · cases c with
    | nil => exact (List.cons.inj hc).2 ▸ List.suffix_rfl
    | cons y c => exact ⟨c ++ [x], by simpa using (List.cons.inj hc).2.symm⟩
  · cases c with
    | nil => exact (List.cons.inj hc).2 ▸ List.suffix_rfl
    | cons y c => exact (hfront (by simp [(List.cons.inj hc).1])).elim

/-- Who does not ask after a tick is not served. -/
theorem unserved_pending {front back : List Happening} (hfront : .tick ∉ front)
    (hback : .receive ∉ back) : Unserved (front ++ .tick :: back) := by
  intro before later heq
  refine .inl fun hmem => hback ?_
  obtain ⟨a, b, rfl⟩ := List.append_of_mem hmem
  rw [List.append_assoc, List.cons_append] at heq
  exact (suffix_of_append_cons_eq heq hfront).mem (by simp)

/-- Who is gone is not served. -/
theorem Unserved.append_drop {idle : List Happening} (hidle : Unserved idle)
    (away : List Happening) : Unserved (idle ++ .drop :: away) := by
  intro before later heq
  obtain ⟨c, rfl, hc⟩ | ⟨c, rfl, hc⟩ := List.append_eq_append_iff.mp heq
  · cases c with
    | nil => exact Happening.noConfusion (List.cons.inj hc).1
    | cons e c => exact .inr (by simp [(List.cons.inj hc).1])
  · cases c with
    | nil => exact Happening.noConfusion (List.cons.inj hc).1
    | cons e c =>
      obtain rfl := (List.cons.inj hc).1
      exact hidle before c rfl

/-- **What a consumer receives**: exactly the receipts of the history. -/
theorem exists_receipts (h : List Happening) :
    ∃ past idle, h = past ++ idle ∧ Receipts past (numbers h) ∧ Unserved idle := by
  have hattended : ∀ h, .drop ∉ h →
      ∃ past idle, h = past ++ idle ∧ Receipts past (numbers h) ∧ Unserved idle := by
    intro h hdrop
    have ha := attended_run hdrop
    rw [numbers]
    generalize run id h = d at ha
    cases ha with
    | @idle past idle ticks hpast htick _ =>
      exact ⟨past, idle, rfl, hpast, unserved_of_not_mem htick⟩
    | @pending past front back ticks hpast hfront hback _ =>
      exact ⟨past, front ++ .tick :: back, List.append_assoc _ _ _, hpast,
        unserved_pending hfront hback⟩
  by_cases hmem : .drop ∈ h
  · obtain ⟨present, away, rfl, hdrop⟩ := List.eq_append_cons_of_mem hmem
    obtain ⟨past, idle, rfl, hpast, hidle⟩ := hattended present hdrop
    refine ⟨past, idle ++ .drop :: away, List.append_assoc _ _ _, ?_, hidle.append_drop away⟩
    rwa [numbers, received_append_drop]
  · exact hattended h hmem

/-! ## Lost updates -/

/-- The update of a tick is not received and does not wait to be. -/
structure Lost (n : Nat) (d : Delivery Nat) : Prop where
  ticked : n < d.stream.ticks
  pending : n ∉ d.stream.channel.items
  received : n ∉ d.received

theorem Lost.after {n : Nat} {d : Delivery Nat} (hl : Lost n d) (e : Happening) :
    Lost n (d.after id e) := by
  obtain ⟨hticked, hpending, hreceived⟩ := hl
  cases e with
  | tick =>
    rw [← received_after_tick id] at hreceived
    have hstream : n < (d.stream.tick d.stream.ticks).ticks ∧
        n ∉ (d.stream.tick d.stream.ticks).channel.items := by
      have hnext := Nat.lt_succ_of_lt hticked
      obtain ⟨-, h⟩ | ⟨-, -, h⟩ | ⟨-, -, -, h⟩ | ⟨-, -, -, h⟩ :=
        d.stream.tick_cases d.stream.ticks <;> rw [h]
      · exact ⟨hticked, hpending⟩
      · exact ⟨hnext, hpending⟩
      · exact ⟨hnext, hpending⟩
      · exact ⟨hnext, by simp [hpending, Nat.ne_of_lt hticked]⟩
    exact ⟨hstream.1, hstream.2, hreceived⟩
  | receive =>
    refine ⟨hticked, fun hmem => hpending ?_, ?_⟩
    · simp only [Delivery.after, Stream.after, Stream.receive_eq] at hmem
      exact List.mem_of_mem_tail hmem
    · have hhead : n ∉ d.stream.channel.items.head?.toList := fun hmem =>
        hpending (List.mem_of_mem_head? (Option.mem_toList.mp hmem))
      simpa [Delivery.after, Stream.gives, Stream.receive_eq, hhead] using hreceived
  | drop =>
    rw [← received_after_drop id] at hreceived
    exact ⟨hticked, List.not_mem_nil, hreceived⟩

theorem Lost.foldl {n : Nat} {d : Delivery Nat} (hl : Lost n d) (h : List Happening) :
    Lost n (h.foldl (Delivery.after id) d) := by
  induction h generalizing d with
  | nil => exact hl
  | cons e h ih => exact ih (hl.after e)

theorem isFull_run (item : Nat → α) (h : List Happening) :
    (run item h).stream.channel.isFull = (run id h).stream.channel.isFull := by
  have hmap : run item h = (run id h).map item := (run_map item h).symm
  simp [hmap, map, Channel.isFull]

/-- **An update that found the channel full is never received**, whatever happens later. -/
theorem lost_of_full (hfull : (run item h).stream.channel.isFull) (later : List Happening) :
    h.count .tick ∉ numbers (h ++ .tick :: later) := by
  rw [isFull_run] at hfull
  have ha := attended_run (not_mem_drop_of_isFull hfull)
  rw [numbers, run_append, List.foldl_cons]
  refine (Lost.foldl ?_ later).received
  generalize run id h = d at ha hfull
  cases ha with
  | idle => exact absurd hfull Bool.false_ne_true
  | @pending past front back ticks hpast hfront hback _ =>
    have hcount : past.count .tick < (past ++ front ++ .tick :: back).count Happening.tick := by
      rw [List.count_append, List.count_append, List.count_cons_self]
      omega
    have hreceived : (past ++ front ++ .tick :: back).count .tick ∉ ticks := fun hmem =>
      absurd (hpast.lt_count _ hmem) (by omega)
    refine ⟨Nat.lt_succ_self _, fun hmem => ?_, fun hmem => hreceived ?_⟩
    · exact absurd (List.mem_singleton.mp hmem) (Nat.ne_of_gt hcount)
    · rwa [received_after_tick] at hmem

/-- What the history of a stream says of what its consumer received and of its loop. -/
structure Faithful (item : Nat → α) (h : List Happening) (d : Delivery α) : Prop where
  /-- At most one update waits. -/
  pending : d.stream.channel.items.length ≤ 1
  /-- What is received is what ticks offered. -/
  received : d.received = (numbers h).map item
  /-- Each receipt brings the update of the first tick since the one before. -/
  receipts : ∃ past idle, h = past ++ idle ∧ Receipts past (numbers h) ∧ Unserved idle
  /-- No update is received twice. -/
  increasing : (numbers h).Pairwise (· < ·)
  /-- The updates of ticks that found the channel full are lost. -/
  lost : ∀ before later, h = before ++ .tick :: later →
    (run item before).stream.channel.isFull → before.count .tick ∉ numbers h
  /-- The loop ends at the first tick without a consumer. -/
  ended : d.stream.ended ↔ ∃ before later, h = before ++ .tick :: later ∧ .drop ∈ before

/-- **A stream brings the latest updates and ends with its consumer**, whatever the order of
events. -/
theorem faithful_run (item : Nat → α) (h : List Happening) : Faithful item h (run item h) := by
  obtain ⟨past, idle, heq, hpast, hidle⟩ := exists_receipts h
  refine ⟨(narrow_run item h).length, received_eq h, ⟨past, idle, heq, hpast, hidle⟩,
    hpast.increasing, ?_, ended_iff⟩
  rintro before later rfl hfull
  exact lost_of_full hfull later

end Delivery

/-! ## Streams beside each other -/

/-- What happens to one of several things, by its number. -/
def own {ε : Type} (i : Nat) (events : List (Nat × ε)) : List ε :=
  (events.filter (·.1 == i)).map (·.2)

section Own

variable {ε : Type} {i j : Nat} {events events' : List (Nat × ε)}

theorem own_append : own i (events ++ events') = own i events ++ own i events' := by
  simp [own]

theorem own_numbered (es : List ε) : own i (es.map (Prod.mk j)) = if j = i then es else [] := by
  by_cases h : j = i <;> simp [own, List.filter_map, Function.comp_def, h]

/-- Histories of single streams can be put into one order. -/
theorem exists_events (past : Nat → List ε) {bound : Nat} (hpast : ∀ i, bound ≤ i → past i = []) :
    ∃ events, ∀ i, own i events = past i := by
  suffices hbelow : ∀ n, ∃ events, ∀ i, own i events = if i < n then past i else [] by
    obtain ⟨events, hevents⟩ := hbelow bound
    refine ⟨events, fun i => (hevents i).trans ?_⟩
    split
    · rfl
    · exact (hpast i (by omega)).symm
  intro n
  induction n with
  | zero => exact ⟨[], fun _ => rfl⟩
  | succ n ih =>
    obtain ⟨events, hevents⟩ := ih
    refine ⟨events ++ (past n).map (Prod.mk n), fun i => ?_⟩
    rw [own_append, hevents, own_numbered]
    obtain h | rfl | h := Nat.lt_trichotomy i n
    · simp [h, Nat.lt_succ_of_lt h, Nat.ne_of_gt h]
    · simp
    · simp [Nat.lt_asymm h, Nat.ne_of_lt h, show ¬ i < n + 1 by omega]

end Own

/-- Streams beside each other, by their numbers. -/
def Hall (α : Type) := Nat → Delivery α

namespace Hall

variable {α : Type} {item : Nat → α}

/-- The streams after an event of one of them. -/
def after (item : Nat → α) (hall : Hall α) (e : Nat × Happening) : Hall α :=
  fun i => if i = e.1 then (hall i).after item e.2 else hall i

/-- The streams after some events. -/
def run (item : Nat → α) (events : List (Nat × Happening)) : Hall α :=
  events.foldl (after item) fun _ => .fresh

/-- **No stream's events affect another's.** -/
theorem run_apply (events : List (Nat × Happening)) (i : Nat) :
    run item events i = Delivery.run item (own i events) := by
  induction events using List.reverseRecOn with
  | nil => rfl
  | append_singleton events e ih =>
    have hrun : run item (events ++ [e]) = after item (run item events) e := List.foldl_append
    rw [hrun, own_append, Delivery.run_append, ← ih, after]
    by_cases h : i = e.1
    · simp [h, own]
    · simp [h, own, Ne.symm h]

end Hall
end ShareAgent.Health
