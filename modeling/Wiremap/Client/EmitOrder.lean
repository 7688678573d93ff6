import Wiremap.Client.WireSocketRuns

/-! What the socket emits arrives in order where nothing is sent before a message that
has waited longer.  The invariant is that what has been sent and what waits make up
what was emitted. -/
namespace Wiremap.Client.WireSocket

open Wiremap.Library
open Wiremap.Client.Socket (ReadyState)

/-! ### Lists with one part -/

section Parts

variable {α β : Type} {l : List α} {f : α → List β} {a : α} {i : Nat}

theorem flatMap_modify_of_only (hi : l[i]? = some a)
    (honly : ∀ (j : Nat) (b : α), l[j]? = some b → f b ≠ [] → j = i) (g : α → α) :
    (l.modify i g).flatMap f = f (g a) := by
  induction l generalizing i with
  | nil => cases hi
  | cons b l ih =>
      cases i with
      | zero =>
          obtain rfl := Option.some.inj hi
          have hrest : l.flatMap f = [] := by
            refine List.flatMap_eq_nil_iff.mpr fun b hb => ?_
            obtain ⟨j, hj⟩ := List.mem_iff_getElem?.mp hb
            by_contra hne
            exact absurd (honly (j + 1) b hj hne) (by omega)
          simp [hrest]
      | succ i =>
          have hfirst : f b = [] := by
            by_contra hne
            exact absurd (honly 0 b rfl hne) (by omega)
          rw [List.modify_succ_cons, List.flatMap_cons, hfirst, List.nil_append]
          exact ih hi fun j b hj hne => Nat.succ.inj (honly (j + 1) b hj hne)

theorem flatMap_of_only (hi : l[i]? = some a)
    (honly : ∀ (j : Nat) (b : α), l[j]? = some b → f b ≠ [] → j = i) : l.flatMap f = f a := by
  simpa using flatMap_modify_of_only hi honly id

theorem flatMap_modify_of_eq {g : α → α} (hg : ∀ a, f (g a) = f a) (l : List α) (i : Nat) :
    (l.modify i g).flatMap f = l.flatMap f := by
  induction l generalizing i with
  | nil => simp
  | cons a l ih =>
      cases i with
      | zero => simp [hg]
      | succ i => simp [ih]

end Parts

variable {α : Type} {s s' : State α} {e : Event α}

/-! ### Connections that stay open -/

structure Steady (s : State α) : Prop where
  owned : ∀ (i : Nat) (w : WebSocket α), s.sockets[i]? = some w → w.readyState ≠ .closed →
    s.ws = some i ∧ w.readyState ≠ .closing
  wired : ∀ (i : Nat) (w : WebSocket α), s.sockets[i]? = some w → w.readyState ≠ .open →
    w.inflight = []

theorem getElem?_states_iff {i : Nat} {r : ReadyState} :
    s.states[i]? = some r ↔ ∃ w, s.sockets[i]? = some w ∧ w.readyState = r := by
  rw [State.states, List.getElem?_map, Option.map_eq_some_iff]

theorem getElem?_states {i : Nat} {w : WebSocket α} (hi : s.sockets[i]? = some w) :
    s.states[i]? = some w.readyState :=
  getElem?_states_iff.mpr ⟨w, hi, rfl⟩

theorem readyState_open_iff :
    s.readyState = some .open ↔ ∃ (i : Nat) (w : WebSocket α), s.ws = some i ∧
      s.sockets[i]? = some w ∧ w.readyState = .open := by
  unfold State.readyState
  cases s.ws with
  | none => simp
  | some i =>
      cases hi : s.sockets[i]? with
      | none => simp [State.states, hi]
      | some w => simp [getElem?_states hi, hi]

theorem Steady.only (h : Steady s) {i : Nat} (hws : s.ws = some i) (j : Nat) (w : WebSocket α)
    (hj : s.sockets[j]? = some w) (hw : w.inflight ≠ []) : j = i := by
  have hopen : w.readyState = .open := by
    by_contra hclosed
    exact hw (h.wired j w hj hclosed)
  have hown := (h.owned j w hj (by rw [hopen]; decide)).1
  exact Option.some.inj (hown.symm.trans hws)

theorem Steady.closed_of_not_kept (h : Steady s) (hkept : ¬s.Kept) {i : Nat} {w : WebSocket α}
    (hi : s.sockets[i]? = some w) : w.readyState = .closed := by
  by_contra hopen
  obtain ⟨hws, hclosing⟩ := h.owned i w hi hopen
  refine hkept (State.kept_iff.mpr ⟨i, hws, ?_⟩)
  rw [getElem?_states hi]
  cases hr : w.readyState <;> simp_all

theorem steady_connect (h : Steady s) (created : Bool) :
    Steady (s.connect created) ∧ (s.connect created).inflight = s.inflight := by
  rcases s.connect_cases created with ⟨-, hs⟩ | ⟨hkept, -, hs⟩ | ⟨-, -, hs⟩
  · rw [hs]
    exact ⟨h, rfl⟩
  · rw [hs]
    refine ⟨⟨fun i w hi hw => ?_, fun i w hi hw => ?_⟩, by simp [State.inflight]⟩
    · rw [List.getElem?_append] at hi
      split at hi
      · exact absurd (h.closed_of_not_kept hkept hi) hw
      · obtain ⟨hlt, rfl⟩ := List.getElem?_eq_some_iff.mp hi
        simp at hlt
        exact ⟨congrArg some (by omega), by simp⟩
    · rw [List.getElem?_append] at hi
      split at hi
      · exact h.wired i w hi hw
      · obtain ⟨hlt, rfl⟩ := List.getElem?_eq_some_iff.mp hi
        simp
  · rw [hs]
    exact ⟨⟨h.owned, h.wired⟩, rfl⟩

theorem Steady.modify (h : Steady s) {i : Nat} {w : WebSocket α} {g : WebSocket α → WebSocket α}
    (hi : s.sockets[i]? = some w) (hsockets : s'.sockets = s.sockets.modify i g)
    (hws : s'.ws = s.ws ∨ (g w).readyState = .closed ∧ w.readyState ≠ .closed)
    (howned : (g w).readyState ≠ .closed → s.ws = some i ∧ (g w).readyState ≠ .closing)
    (hwired : (g w).readyState ≠ .open → (g w).inflight = []) : Steady s' := by
  have hat : ∀ (j : Nat) (w' : WebSocket α), s'.sockets[j]? = some w' →
      (j = i ∧ w' = g w) ∨ j ≠ i ∧ s.sockets[j]? = some w' := by
    intro j w' hj
    rw [hsockets, List.getElem?_modify] at hj
    by_cases hij : i = j
    · subst hij
      simp only [hi, if_true] at hj
      exact Or.inl ⟨rfl, (Option.some.inj hj).symm⟩
    · simp only [hij, if_false, Option.map_eq_map, Option.map_id_fun', id] at hj
      exact Or.inr ⟨Ne.symm hij, hj⟩
  refine ⟨fun j w' hj hopen => ?_, fun j w' hj hclosed => ?_⟩
  · rcases hat j w' hj with ⟨rfl, rfl⟩ | ⟨hne, hold⟩
    · rcases hws with hws | ⟨hclosed, -⟩
      · rw [hws]
        exact howned hopen
      · exact absurd hclosed hopen
    · rcases hws with hws | ⟨-, hunclosed⟩
      · rw [hws]
        exact h.owned j w' hold hopen
      · have hown := (h.owned j w' hold hopen).1.symm.trans (h.owned i w hi hunclosed).1
        exact absurd (Option.some.inj hown) hne
  · rcases hat j w' hj with ⟨rfl, rfl⟩ | ⟨-, hold⟩
    · exact hwired hclosed
    · exact h.wired j w' hold hclosed

theorem steady_send (h : Steady s) (hopen : s.readyState = some .open) (m : Message α) :
    Steady (s.send m) ∧ (s.send m).inflight = s.inflight ++ [m] := by
  obtain ⟨i, w, hws, hi, hw⟩ := readyState_open_iff.mp hopen
  have hsend : s.send m = { s with
      sockets := s.sockets.modify i fun w => { w with inflight := w.inflight ++ [m] } } := by
    unfold State.send
    split
    · rename_i j hj
      rw [Option.some.inj (hj.symm.trans hws)]
    · rename_i hnone
      rw [hnone] at hws
      cases hws
  rw [hsend]
  refine ⟨h.modify hi rfl (Or.inl rfl) (fun _ => ⟨hws, ?_⟩) fun hclosed => absurd hw hclosed, ?_⟩
  · simp [hw]
  · unfold State.inflight
    rw [flatMap_modify_of_only hi (h.only hws), flatMap_of_only hi (h.only hws)]

/-! ### Messages -/

@[simp] theorem retries_connect (s : State α) (created : Bool) :
    (s.connect created).retries = s.retries := by
  rcases s.connect_cases created with ⟨-, hs⟩ | ⟨-, -, hs⟩ | ⟨-, -, hs⟩ <;> rw [hs]

@[simp] theorem emitted_connect (s : State α) (created : Bool) :
    (s.connect created).emitted = s.emitted := by
  rcases s.connect_cases created with ⟨-, hs⟩ | ⟨-, -, hs⟩ | ⟨-, -, hs⟩ <;> rw [hs]

@[simp] theorem received_connect (s : State α) (created : Bool) :
    (s.connect created).received = s.received := by
  rcases s.connect_cases created with ⟨-, hs⟩ | ⟨-, -, hs⟩ | ⟨-, -, hs⟩ <;> rw [hs]

theorem inflight_setReady (s : State α) (i : Nat) (r : ReadyState) :
    (s.setReady i r).inflight = s.inflight :=
  flatMap_modify_of_eq (f := WebSocket.inflight) (g := fun w => { w with readyState := r })
    (fun _ => rfl) s.sockets i

/-- What a step does to the messages: nothing, or it sends that of the call, has it
wait, or sends one that waited. -/
inductive Moved (s : State α) : Event α → State α → Prop where
  | none (e : Event α) (s' : State α) (hdelivered : s'.delivered = s.delivered) (hretries : s'.retries = s.retries)
      (hemitted : s'.emitted = s.emitted) (hfirst : OldestFirst s e) : Moved s e s'
  | sent (frame : α) (created : Bool) (s' : State α)
      (hdelivered : s'.delivered = s.delivered ++ [s.next frame])
      (hretries : s'.retries = s.retries) (hemitted : s'.emitted = s.emitted ++ [s.next frame])
      (hopen : s.readyState = some .open) : Moved s (.emit frame created) s'
  | waits (frame : α) (created : Bool) (s' : State α) (hdelivered : s'.delivered = s.delivered)
      (hretries : s'.retries = s.retries ++ [s.next frame])
      (hemitted : s'.emitted = s.emitted ++ [s.next frame])
      (hopen : s.readyState ≠ some .open) : Moved s (.emit frame created) s'
  | retried (timer : Nat) (m : Message α) (s' : State α) (hm : s.retries[timer]? = some m)
      (hdelivered : s'.delivered = s.delivered ++ [m])
      (hretries : s'.retries = s.retries.eraseIdx timer) (hemitted : s'.emitted = s.emitted)
      (hopen : s.readyState = some .open) : Moved s (.retry timer) s'

theorem steady_step (h : Steady s) (hstay : StaysOpen s e) (hs : step s e = some s') :
    Steady s' ∧ Moved s e s' := by
  cases e with
  | connect created =>
      obtain rfl := Option.some.inj hs
      obtain ⟨hsteady, hinflight⟩ := steady_connect h created
      exact ⟨hsteady, .none _ _ (by simp [State.delivered, hinflight]) (by simp) (by simp) trivial⟩
  | emit frame created =>
      obtain rfl := Option.some.inj hs
      have hnoted : Steady (s.note (s.next frame)) := ⟨h.owned, h.wired⟩
      rcases s.emit_cases frame created with ⟨hopen, hemit⟩ | ⟨hopen, hemit⟩
      · rw [hemit]
        obtain ⟨hsteady, hinflight⟩ := steady_send hnoted hopen (s.next frame)
        refine ⟨hsteady, .sent _ _ _ ?_ (by simp; rfl) (by simp; rfl) hopen⟩
        rw [State.delivered, hinflight, State.received_send, ← List.append_assoc]
        rfl
      · rw [hemit]
        obtain ⟨hsteady, hinflight⟩ := steady_connect hnoted created
        refine ⟨⟨hsteady.owned, hsteady.wired⟩, .waits _ _ _ ?_ (by simp; rfl) (by simp; rfl) hopen⟩
        exact congrArg₂ (· ++ ·) (received_connect _ created) hinflight
  | disconnect => exact hstay.elim
  | retry timer =>
      obtain ⟨m, hm, rfl⟩ := Option.map_eq_some_iff.mp hs
      unfold State.retry
      split
      · rename_i hopen
        have herased : Steady { s with retries := s.retries.eraseIdx timer } := ⟨h.owned, h.wired⟩
        obtain ⟨hsteady, hinflight⟩ := steady_send herased hopen m
        refine ⟨hsteady, .retried _ m _ hm ?_ (by simp) (by simp) hopen⟩
        rw [State.delivered, hinflight, State.received_send, ← List.append_assoc]
        rfl
      · rename_i hclosed
        exact ⟨h, .none _ _ rfl rfl rfl fun hopen => absurd hopen hclosed⟩
  | reconnect created =>
      obtain ⟨-, rfl⟩ := Machine.guarded_eq_some.mp hs
      have htimer : Steady { s with
          reconnectTimer := false
          reconnectDelay := min (s.reconnectDelay * (3 / 2)) 30000 } := ⟨h.owned, h.wired⟩
      obtain ⟨hsteady, hinflight⟩ := steady_connect htimer created
      exact ⟨hsteady, .none _ _ (congrArg₂ (· ++ ·) (received_connect _ created) hinflight)
        (retries_connect _ created) (emitted_connect _ created) trivial⟩
  | opened i =>
      obtain ⟨hi, rfl⟩ := Machine.guarded_eq_some.mp hs
      obtain ⟨w, hw, hr⟩ := getElem?_states_iff.mp hi
      have hown := (h.owned i w hw (by rw [hr]; decide)).1
      have hsteady : Steady (s.setReady i .open).onopen :=
        h.modify hw rfl (Or.inl rfl) (fun _ => ⟨hown, by simp⟩) fun hclosed => absurd rfl hclosed
      exact ⟨hsteady, .none _ _ (congrArg (s.received ++ ·) (inflight_setReady s i .open)) rfl rfl
        trivial⟩
  | error i =>
      obtain rfl := step_error hs
      exact ⟨h, .none _ _ rfl rfl rfl trivial⟩
  | closing i =>
      exact absurd (Machine.guarded_eq_some.mp hs).1 hstay
  | closed i =>
      obtain ⟨⟨r, hi, hr⟩, rfl⟩ := step_closed hs
      obtain ⟨w, hw, rfl⟩ := getElem?_states_iff.mp hi
      have hempty : w.inflight = [] := h.wired i w hw fun hopen => hstay (hopen ▸ hi)
      have hsteady : ∀ s' : State α, s'.sockets = (s.setReady i .closed).sockets → Steady s' :=
        fun s' hsockets => h.modify hw hsockets (Or.inr ⟨rfl, hr⟩)
          (fun hclosed => absurd rfl hclosed) fun _ => hempty
      have hdelivered : s.received ++ (s.setReady i .closed).inflight = s.delivered :=
        congrArg (s.received ++ ·) (inflight_setReady s i .closed)
      unfold State.onclose
      simp only
      split
      · exact ⟨hsteady _ rfl, .none _ _ hdelivered rfl rfl trivial⟩
      · exact ⟨hsteady _ rfl, .none _ _ hdelivered rfl rfl trivial⟩
  | receive i =>
      obtain ⟨w, m, rest, hw, hinflight, rfl⟩ := step_receive hs
      have hopen : w.readyState = .open := by
        by_contra hclosed
        rw [h.wired i w hw hclosed] at hinflight
        cases hinflight
      have hown := h.owned i w hw (by rw [hopen]; decide)
      refine ⟨h.modify hw rfl (Or.inl rfl) (fun _ => hown) fun hclosed => absurd hopen hclosed,
        .none _ _ ?_ rfl rfl trivial⟩
      unfold State.delivered State.inflight
      rw [flatMap_modify_of_only hw (h.only hown.1), flatMap_of_only hw (h.only hown.1), hinflight,
        List.append_assoc]
      rfl

/-! ### Order -/

def Numbered (s : State α) : Prop := s.emitted.map Message.call = List.range s.emitted.length

theorem Numbered.nodup (h : Numbered s) : s.emitted.Nodup :=
  List.Nodup.of_map Message.call (h ▸ List.nodup_range)

theorem numbered_append (h : Numbered s) (frame : α)
    (hs' : s'.emitted = s.emitted ++ [s.next frame]) : Numbered s' := by
  unfold Numbered at h ⊢
  simp [hs', h, List.range_succ, State.next]

theorem Moved.numbered (hmoved : Moved s e s') (h : Numbered s) : Numbered s' := by
  cases hmoved with
  | none _ _ _ _ hemitted => rwa [Numbered, hemitted]
  | sent frame _ _ _ _ hemitted => exact numbered_append h frame hemitted
  | waits frame _ _ _ _ hemitted => exact numbered_append h frame hemitted
  | retried _ _ _ _ _ _ hemitted => rwa [Numbered, hemitted]

/-- What has been sent and what waits make up what was emitted. -/
def InOrder (s : State α) : Prop := s.delivered ++ s.retries = s.emitted

theorem InOrder.fifo (h : InOrder s) : Fifo s := by
  refine ⟨⟨s.retries, h⟩, fun hretries => ?_⟩
  rw [InOrder, hretries, List.append_nil] at h
  exact h

/-- The message that is sent next has to be the oldest that waits. -/
theorem head_of_delivered {delivered waiting : List (Message α)} {m : Message α}
    (h : delivered ++ [m] <+: delivered ++ waiting) : waiting.head? = some m := by
  rw [List.prefix_append_right_inj] at h
  obtain ⟨tail, htail⟩ := h
  rw [← htail]
  rfl

theorem Moved.inOrder (hmoved : Moved s e s') (h : InOrder s) (hfirst : OldestFirst s e) :
    InOrder s' := by
  unfold InOrder at h ⊢
  cases hmoved with
  | none _ _ hdelivered hretries hemitted => rw [hdelivered, hretries, hemitted, h]
  | sent frame created _ hdelivered hretries hemitted hopen =>
      have hnone : s.retries = [] := hfirst hopen
      rw [hnone, List.append_nil] at h
      rw [hdelivered, hretries, hemitted, hnone, List.append_nil, h]
  | waits frame created _ hdelivered hretries hemitted hopen =>
      rw [hdelivered, hretries, hemitted, ← List.append_assoc, h]
  | retried timer m _ hm hdelivered hretries hemitted hopen =>
      obtain rfl : timer = 0 := hfirst hopen
      rw [hdelivered, hretries, hemitted, ← h]
      cases hwaiting : s.retries with
      | nil => simp [hwaiting] at hm
      | cons first rest =>
          rw [hwaiting] at hm
          obtain rfl := Option.some.inj hm
          simp

theorem Moved.oldestFirst (hmoved : Moved s e s') (h : InOrder s) (hnumbered : Numbered s)
    (hfifo : Fifo s') : OldestFirst s e := by
  have hprefix := hfifo.inOrder
  cases hmoved with
  | none _ _ _ _ _ hfirst => exact hfirst
  | sent frame created _ hdelivered hretries hemitted hopen =>
      intro _
      rw [hdelivered, hemitted, ← h, List.append_assoc] at hprefix
      cases hwaiting : s.retries with
      | nil => rfl
      | cons first rest =>
          rw [hwaiting] at hprefix
          obtain rfl : first = s.next frame := Option.some.inj (head_of_delivered hprefix)
          have hmem : s.next frame ∈ s.emitted := by
            rw [← h, hwaiting]
            simp
          have hcall := List.mem_map_of_mem (f := Message.call) hmem
          rw [hnumbered, List.mem_range] at hcall
          exact absurd hcall (lt_irrefl _)
  | waits frame created _ _ _ _ hopen => exact fun hopen' => absurd hopen' hopen
  | retried timer m _ hm hdelivered hretries hemitted hopen =>
      intro _
      rw [hdelivered, hemitted, ← h] at hprefix
      have hhead := head_of_delivered hprefix
      rw [List.head?_eq_getElem?] at hhead
      have hnodup : s.retries.Nodup := (List.nodup_append.mp (h ▸ hnumbered.nodup)).2.1
      have hlt := (List.getElem?_eq_some_iff.mp hm).1
      exact (List.getElem?_inj hlt hnodup).mp (hm.trans hhead.symm)

/-- The server gets everything once and in order in the runs in which no message is
sent before one that has waited longer. -/
theorem emit_fifo_iff (es : List (Event α)) (s : State α) (hrun : machine.Run StaysOpen es s) :
    (∀ before after t, es = before ++ after → machine.Run StaysOpen before t → Fifo t) ↔
      machine.Run (fun s e => StaysOpen s e ∧ OldestFirst s e) es s := by
  have hinit : Steady (machine.init : State α) ∧ Numbered (machine.init : State α) ∧
      InOrder (machine.init : State α) :=
    ⟨⟨fun i w hi => by simp [machine] at hi, fun i w hi => by simp [machine] at hi⟩, rfl, rfl⟩
  refine Machine.Run.always_iff_of hinit.2.2.fifo ?_ hrun
  intro es s e s' hguarded hstay hs
  obtain ⟨hsteady, hnumbered, horder⟩ := hguarded.invariant hinit
    (I := fun s => Steady s ∧ Numbered s ∧ InOrder s) fun s e s' hI hguard hs => by
      obtain ⟨hsteady', hmoved⟩ := steady_step hI.1 hguard.1 hs
      exact ⟨hsteady', hmoved.numbered hI.2.1, hmoved.inOrder hI.2.2 hguard.2⟩
  obtain ⟨-, hmoved⟩ := steady_step hsteady hstay hs
  exact ⟨fun hfirst => (hmoved.inOrder horder hfirst).fifo, hmoved.oldestFirst horder hnumbered⟩

instance (s : State α) : ∀ e, Decidable (OldestFirst s e)
  | .emit _ _ => inferInstanceAs (Decidable (s.readyState = some .open → s.retries = []))
  | .retry timer => inferInstanceAs (Decidable (s.readyState = some .open → timer = 0))
  | .connect _ | .disconnect | .reconnect _ | .opened _ | .error _ | .closing _ | .closed _
  | .receive _ => isTrue trivial

def patient : List (Event String) :=
  [.emit "logs:subscribe" true, .retry 0, .opened 0, .retry 0, .emit "logs:unsubscribe" true,
    .receive 0, .receive 0]

theorem emit_fifo_patient :
    ∃ s, machine.Run (fun s e => StaysOpen s e ∧ OldestFirst s e) patient s ∧
      ∀ before after t, patient = before ++ after → machine.Run StaysOpen before t → Fifo t := by
  have hrun := Machine.run_of_runGuarded machine (fun s e => StaysOpen s e ∧ OldestFirst s e)
    patient rfl
  exact ⟨_, hrun, (emit_fifo_iff patient _ (hrun.weaken fun _ _ h => h.1)).mpr hrun⟩

/-- The connection opens while the first message waits, and the second is sent at
once. -/
def impatient : List (Event String) :=
  [.emit "logs:subscribe" true, .opened 0, .emit "logs:unsubscribe" true, .retry 0, .receive 0,
    .receive 0]

/-- The subscribe comes after its unsubscribe. -/
theorem impatient_not_fifo :
    ∃ s, machine.Run StaysOpen impatient s ∧
      s.received.map Message.frame = ["logs:unsubscribe", "logs:subscribe"] ∧
      s.emitted.map Message.frame = ["logs:subscribe", "logs:unsubscribe"] ∧ ¬Fifo s := by
  refine ⟨_, Machine.run_of_runGuarded machine _ impatient rfl, rfl, rfl, fun hfifo => ?_⟩
  exact absurd (hfifo.all rfl) (by decide)

end Wiremap.Client.WireSocket
