/-
The two timers of a session.

A session has at most one pending task of each kind, the one in its field (`Clocks`). For the timeout timer this rests on
`lStartTime`: a start clears the running timer only where the start time is not zero, and every start notes a time that
is not zero.
-/
import SocketIOJava.Session

namespace SocketIOJava.Timers

open SocketIOJava.Session

variable {η : Type} {s s' : St η}

/-- every pending task is the one in the session's field for its kind, and a timeout timer that was cleared is off -/
structure Clocks (s : St η) : Prop where
  tasks : ∀ t ∈ s.executor.pending, t.kind = .sendPing ∧ s.session.hbDelayTask = some t ∨
    t.kind = .onTimeout ∧ s.session.timeoutTask = some t
  stopped : s.session.lStartTime = 0 → s.session.timeoutTask = none

theorem mem_cancel {e : Executor} {task : Option Task} {t : Task} (h : t ∈ (e.cancel task).pending) :
    t ∈ e.pending ∧ some t ≠ task := by
  obtain ⟨hmem, hne⟩ := List.mem_filter.1 h
  exact ⟨hmem, of_decide_eq_true hne⟩

theorem clocks_of_idle (hpending : s.executor.pending = []) (hstopped : s.session.timeoutTask = none) : Clocks s := by
  refine ⟨fun t ht => ?_, fun _ => hstopped⟩
  rw [hpending] at ht
  cases ht

namespace Clocks

theorem congr (h : Clocks s) (hpending : ∀ t ∈ s'.executor.pending, t ∈ s.executor.pending)
    (hheartbeat : s'.session.hbDelayTask = s.session.hbDelayTask) (htimeout : s'.session.timeoutTask = s.session.timeoutTask)
    (hstart : s'.session.lStartTime = s.session.lStartTime) : Clocks s' where
  tasks t ht := by
    rw [hheartbeat, htimeout]
    exact h.tasks t (hpending t ht)
  stopped := by
    rw [hstart, htimeout]
    exact h.stopped

variable (h : Clocks s)
include h

/-- no timeout task survives -/
theorem mem_clearTimeoutTimer {t : Task} (ht : t ∈ (clearTimeoutTimer s).executor.pending) :
    t ∈ s.executor.pending ∧ t.kind = .sendPing ∧ s.session.hbDelayTask = some t := by
  obtain ⟨hmem, hne⟩ := mem_cancel ht
  refine ⟨hmem, (h.tasks t hmem).resolve_right ?_⟩
  intro htimeout
  exact hne htimeout.2.symm

/-- no heartbeat task survives -/
theorem mem_clearHeartbeatTimer {t : Task} (ht : t ∈ (clearHeartbeatTimer s).executor.pending) :
    t ∈ s.executor.pending ∧ t.kind = .onTimeout ∧ s.session.timeoutTask = some t := by
  obtain ⟨hmem, hne⟩ := mem_cancel ht
  refine ⟨hmem, (h.tasks t hmem).resolve_left ?_⟩
  intro hheartbeat
  exact hne hheartbeat.2.symm

theorem clearTimeout : Clocks (clearTimeoutTimer s) :=
  ⟨fun _ ht => .inl (h.mem_clearTimeoutTimer ht).2, fun _ => rfl⟩

theorem clearHeartbeat : Clocks (clearHeartbeatTimer s) :=
  ⟨fun _ ht => .inr (h.mem_clearHeartbeatTimer ht).2, h.stopped⟩

/-- **Clearing both timers leaves no task pending.** -/
theorem pending_clear : (clearHeartbeatTimer (clearTimeoutTimer s)).executor.pending = [] := by
  apply List.eq_nil_iff_forall_not_mem.2
  intro t ht
  have hkind := (h.clearTimeout.mem_clearHeartbeatTimer ht).2.1
  have hother := (h.mem_clearTimeoutTimer (h.clearTimeout.mem_clearHeartbeatTimer ht).1).2.1
  cases hkind.symm.trans hother

theorem pending_clear' : (clearTimeoutTimer (clearHeartbeatTimer s)).executor.pending = [] := by
  apply List.eq_nil_iff_forall_not_mem.2
  intro t ht
  have hkind := (h.clearHeartbeat.mem_clearTimeoutTimer ht).2.1
  have hother := (h.mem_clearHeartbeatTimer (h.clearHeartbeat.mem_clearTimeoutTimer ht).1).2.1
  cases hkind.symm.trans hother

/-- a start of the heartbeat timer touches no timeout task -/
theorem startHeartbeat : Clocks (startHeartbeatTimer s) ∧
    ∀ t ∈ (startHeartbeatTimer s).executor.pending, t.kind = .onTimeout → t ∈ s.executor.pending := by
  have hclear := h.clearHeartbeat
  have hold : ∀ t ∈ (clearHeartbeatTimer s).executor.pending, t ∈ s.executor.pending := fun t ht => (mem_cancel ht).1
  unfold startHeartbeatTimer
  split_ifs
  · have hmem : ∀ t ∈ (scheduleHeartbeat (clearHeartbeatTimer s)).executor.pending,
        t ∈ (clearHeartbeatTimer s).executor.pending ∨
          t = (clearHeartbeatTimer s).executor.newTask .sendPing (clearHeartbeatTimer s).session.hbDelay := by
      intro t ht
      exact (List.mem_append.1 ht).imp id List.mem_singleton.1
    refine ⟨⟨fun t ht => ?_, h.stopped⟩, fun t ht hkind => ?_⟩
    · rcases hmem t ht with ht | rfl
      · exact .inr (h.mem_clearHeartbeatTimer ht).2
      · exact .inl ⟨rfl, rfl⟩
    · rcases hmem t ht with ht | rfl
      · exact hold t ht
      · cases hkind
  · exact ⟨hclear, fun t ht _ => hold t ht⟩

/-- after the start time is noted, no timeout task is there -/
theorem stamp : Clocks (stamp s) ∧ (stamp s).session.timeoutTask = none ∧ (stamp s).session.lStartTime ≠ 0 ∧
    (stamp s).executor.ticks = s.executor.ticks ∧ (stamp s).session.timeout = s.session.timeout ∧
      ∀ t ∈ (stamp s).executor.pending, t ∈ s.executor.pending := by
  by_cases hstart : s.session.lStartTime ≠ 0
  · have heq : Session.stamp s =
        { clearTimeoutTimer s with session.lStartTime := (clearTimeoutTimer s).executor.currentTimeMillis } := by
      simp only [Session.stamp, if_pos hstart]
    rw [heq]
    exact ⟨⟨h.clearTimeout.tasks, fun _ => rfl⟩, rfl, Nat.succ_ne_zero _, rfl, rfl, fun t ht => (mem_cancel ht).1⟩
  · have heq : Session.stamp s = { s with session.lStartTime := s.executor.currentTimeMillis } := by
      simp only [Session.stamp, if_neg hstart]
    have hnone : s.session.timeoutTask = none := h.stopped (not_not.1 hstart)
    rw [heq]
    exact ⟨⟨h.tasks, fun _ => hnone⟩, hnone, Nat.succ_ne_zero _, rfl, rfl, fun _ ht => ht⟩

/-- **A start of the timeout timer** leaves no other timeout task than the one that it schedules. -/
theorem startTimeout : Clocks (startTimeoutTimer s) ∧
    ∀ t ∈ (startTimeoutTimer s).executor.pending,
      t.kind = .onTimeout → t.due = s.executor.ticks + s.session.timeout.toNat := by
  obtain ⟨hclocks, hnone, hstart, hticks, htimeout, -⟩ := h.stamp
  have hold : ∀ t ∈ (Session.stamp s).executor.pending, t.kind = .sendPing ∧ (Session.stamp s).session.hbDelayTask = some t := by
    intro t ht
    refine (hclocks.tasks t ht).resolve_right fun hlate => ?_
    cases hnone.symm.trans hlate.2
  unfold startTimeoutTimer
  split_ifs
  · have hmem : ∀ t ∈ (scheduleTimeout (Session.stamp s)).executor.pending, t ∈ (Session.stamp s).executor.pending ∨
        t = (Session.stamp s).executor.newTask .onTimeout (Session.stamp s).session.timeout := by
      intro t ht
      exact (List.mem_append.1 ht).imp id List.mem_singleton.1
    refine ⟨⟨fun t ht => ?_, fun hzero => absurd hzero hstart⟩, fun t ht hkind => ?_⟩
    · rcases hmem t ht with ht | rfl
      · exact .inl (hold t ht)
      · exact .inr ⟨rfl, rfl⟩
    · rcases hmem t ht with ht | rfl
      · cases hkind.symm.trans (hold t ht).1
      · rw [← hticks, ← htimeout]
        rfl
  · exact ⟨hclocks, fun t ht hkind => nomatch hkind.symm.trans (hold t ht).1⟩

end Clocks

/-! ## A timer that does not start -/

theorem startHeartbeatTimer_off (h : ¬ (s.session.timedout = false ∧ 0 < s.session.hbDelay)) :
    startHeartbeatTimer s = clearHeartbeatTimer s := by
  unfold startHeartbeatTimer
  rw [if_neg]
  intro hon
  simp only [Bool.and_eq_true, Bool.not_eq_true', decide_eq_true_eq, gt_iff_lt] at hon
  exact h hon

theorem startTimeoutTimer_off (h : ¬ (s.session.timedout = false ∧ 0 < s.session.timeout)) :
    startTimeoutTimer s = stamp s := by
  have hstamp : (stamp s).session.timedout = s.session.timedout ∧ (stamp s).session.timeout = s.session.timeout := by
    unfold stamp
    split_ifs <;> exact ⟨rfl, rfl⟩
  unfold startTimeoutTimer
  rw [if_neg]
  intro hon
  simp only [Bool.and_eq_true, Bool.not_eq_true', decide_eq_true_eq, gt_iff_lt] at hon
  exact h hon

end SocketIOJava.Timers
