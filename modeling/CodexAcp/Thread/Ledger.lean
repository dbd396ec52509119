import Mathlib.Algebra.GroupWithZero.Nat
import CodexAcp.Thread.Interactions

/-!
# The ledger of approvals

An auditor keeps a ledger with one entry for each approval event the actor
handled: what it asks for, its turn, the permission task it was put to the user
with, the ops accepted in answer to it, and whether it was released, by an
accepted interrupt or shutdown or by the end of its turn. An entry is settled
when its request is still filed, when exactly one op answered it, or when it was
released.

`Audit` says that a ledger is right for a desk: every entry is settled, what is
filed is on it, and every accepted op that answers an approval is booked. Each
of the things a step can do to a desk keeps it:

> `audit_keep`: nothing is answered, and what is dropped is released.
> `audit_requested`, `audit_resolved`, `audit_answeredAtOnce`: a request is
> filed, answered, or answered as it is made.
-/

namespace CodexAcp.Thread

open CodexAcp.Lib CodexAcp.Protocol CodexAcp.Boundary

/-! ## The ledger -/

/-- What became of one approval event. -/
structure Entry where
  target : ApprovalTarget
  turn : String
  task : Option TaskId
  answers : List Op
  released : Bool

def Entry.release (e : Entry) : Entry := { e with released := true }

def Entry.answer (ops : List Op) (e : Entry) : Entry := { e with answers := e.answers ++ ops }

/-- Release the entries a predicate picks. -/
def releaseIf (q : Entry → Bool) (ledger : List Entry) : List Entry :=
  ledger.map fun e => if q e then e.release else e

/-- Book ops as answers to the request of a task. -/
def answerTask (n : TaskId) (ops : List Op) (ledger : List Entry) : List Entry :=
  ledger.map fun e => if e.task = some n then e.answer ops else e

/-- The ops that release every approval. -/
def stopsTurns : Op → Bool
  | .interrupt | .shutdown => true
  | _ => false

/-- The ops accepted between two desks. -/
def acceptedSince (d d' : Desk) : List Op := (d'.accepted.drop d.accepted.length).map (·.1)

/-- Keep the ledger over a step. -/
def observe (d : Desk) (l : Label) (d' : Desk) (ledger : List Entry) : List Entry :=
  match l with
  | .event event =>
    match askedTarget event.msg with
    | some target =>
      ledger ++
        [{ target := target, turn := event.id
           -- A request put to the user is the one thing that starts a task.
           task := if d.tasks.length < d'.tasks.length then some d.tasks.length else none
           answers := acceptedSince d d', released := false }]
    | none =>
      if (terminalResult event.msg).isSome then releaseIf (fun e => e.turn = event.id) ledger
      else ledger
  | .resolution =>
    match d.resolutions with
    | (_, message) :: _ =>
      match d.interaction message.submissionId message.requestKey with
      | some i => answerTask i.task (acceptedSince d d') ledger
      | none => ledger
    | [] => ledger
  | .message _ => releaseIf (fun _ => (acceptedSince d d').any stopsTurns) ledger
  | _ => ledger

/-- An actor in its loop and the ledger of its run. -/
structure Audited where
  running : Running
  ledger : List Entry := []

def Audited.step (codex : Codex) (s : Audited) (l : Label) : Option Audited :=
  (s.running.step codex l).map fun r =>
    ⟨r, observe s.running.actor.desk l r.actor.desk s.ledger⟩

/-- The request is still filed, exactly one op answered it, or it was released. -/
def Entry.Settled (d : Desk) (e : Entry) : Prop :=
  (e.answers = [] ∧ ∃ key i, d.interaction e.turn key = some i ∧ e.task = some i.task) ∨
    (∃ op, e.answers = [op] ∧ op.approvalTarget = some e.target) ∨ e.released = true

/-- How many of the ops answer an approval. -/
def countAnswers (target : ApprovalTarget) (ops : List Op) : Nat :=
  ops.countP fun op => op.approvalTarget = some target

/-- How many answers the ledger books for an approval. -/
def booked (target : ApprovalTarget) (ledger : List Entry) : Nat :=
  (ledger.map fun e => if e.target = target then e.answers.length else 0).sum

/-! ## The invariant -/

structure Audit (d : Desk) (ledger : List Entry) : Prop where
  settled : ∀ e ∈ ledger, e.Settled d
  /-- What is filed is on the ledger, with no answer yet. -/
  filed : ∀ sid key i, d.interaction sid key = some i → ∃ e ∈ ledger,
    e.task = some i.task ∧ e.turn = sid ∧ e.target = i.request.target ∧ e.answers = []
  started : ∀ e ∈ ledger, ∀ n, e.task = some n → n < d.tasks.length
  /-- Each entry has a task of its own. -/
  own : (ledger.filterMap (·.task)).Nodup
  /-- Each interaction has a task of its own. -/
  apart : ∀ sid key i sid' key' i', d.interaction sid key = some i →
    d.interaction sid' key' = some i' → i.task = i'.task → sid = sid' ∧ key = key'
  counted : ∀ target, countAnswers target (d.accepted.map (·.1)) = booked target ledger

theorem audit_start (config : Config) (models : ModelsManager) :
    Audit (Running.start config models).actor.desk [] where
  settled e he := by cases he
  filed sid key i h := by cases h
  started e he := by cases he
  own := List.nodup_nil
  apart sid key i sid' key' i' h := by cases h
  counted target := rfl

/-! ## The ledger's operations -/

theorem mem_releaseIf {q : Entry → Bool} {ledger : List Entry} {e : Entry}
    (h : e ∈ releaseIf q ledger) : ∃ e' ∈ ledger, e = if q e' then e'.release else e' := by
  obtain ⟨e', he', rfl⟩ := List.mem_map.mp h
  exact ⟨e', he', rfl⟩

/-- Releasing an entry changes nothing else of it. -/
theorem release_same (q : Entry → Bool) (e : Entry) :
    (if q e then e.release else e).task = e.task ∧ (if q e then e.release else e).turn = e.turn ∧
      (if q e then e.release else e).target = e.target ∧
      (if q e then e.release else e).answers = e.answers := by
  split <;> exact ⟨rfl, rfl, rfl, rfl⟩

theorem filterMap_task_map {f : Entry → Entry} (hf : ∀ e, (f e).task = e.task)
    (ledger : List Entry) : (ledger.map f).filterMap (·.task) = ledger.filterMap (·.task) := by
  rw [List.filterMap_map]
  congr 1
  funext e
  exact hf e

theorem booked_releaseIf (q : Entry → Bool) (ledger : List Entry) (target : ApprovalTarget) :
    booked target (releaseIf q ledger) = booked target ledger := by
  unfold booked releaseIf
  rw [List.map_map]
  congr 2
  funext e
  by_cases h : q e <;> simp [h, Entry.release]

theorem booked_append (target : ApprovalTarget) (ledger : List Entry) (e : Entry) :
    booked target (ledger ++ [e]) =
      booked target ledger + if e.target = target then e.answers.length else 0 := by
  unfold booked
  simp

theorem answerTask_of_not_mem {ledger : List Entry} {n : TaskId}
    (h : n ∉ ledger.filterMap (·.task)) (ops : List Op) : answerTask n ops ledger = ledger := by
  unfold answerTask
  conv_rhs => rw [← List.map_id ledger]
  refine List.map_congr_left fun e he => ?_
  rw [if_neg fun hn => h (List.mem_filterMap.mpr ⟨e, he, hn⟩)]
  rfl

/-- Booking one answer to the one entry of a task. -/
theorem booked_answerTask {ledger : List Entry} {e : Entry} {n : TaskId}
    (hown : (ledger.filterMap (·.task)).Nodup) (he : e ∈ ledger) (hn : e.task = some n) (op : Op)
    (target : ApprovalTarget) :
    booked target (answerTask n [op] ledger) =
      booked target ledger + if e.target = target then 1 else 0 := by
  induction ledger with
  | nil => cases he
  | cons x ledger ih =>
    have hcons : ∀ y ys, booked target (y :: ys) =
        (if y.target = target then y.answers.length else 0) + booked target ys :=
      fun y ys => by simp [booked]
    have hmap : answerTask n [op] (x :: ledger) =
        (if x.task = some n then x.answer [op] else x) :: answerTask n [op] ledger := rfl
    rw [hmap, hcons, hcons]
    rcases List.mem_cons.mp he with rfl | he
    · rw [List.filterMap_cons_some hn] at hown
      rw [answerTask_of_not_mem (List.nodup_cons.mp hown).1, if_pos hn]
      by_cases htarget : e.target = target
      · simp [Entry.answer, htarget]
        omega
      · simp [Entry.answer, htarget]
    -- The head is another entry, since the entry of the task is further down.
    · have hother : x.task ≠ some n := by
        intro hx
        rw [List.filterMap_cons_some hx] at hown
        exact (List.nodup_cons.mp hown).1 (List.mem_filterMap.mpr ⟨e, he, hn⟩)
      rw [if_neg hother, ih ?_ he]
      · omega
      · cases hx : x.task with
        | none => rwa [List.filterMap_cons_none hx] at hown
        | some m =>
          rw [List.filterMap_cons_some hx] at hown
          exact (List.nodup_cons.mp hown).2

theorem countAnswers_append (target : ApprovalTarget) (ops ops' : List Op) :
    countAnswers target (ops ++ ops') = countAnswers target ops + countAnswers target ops' :=
  List.countP_append

/-- Ops that answer no approval do not count. -/
theorem countAnswers_of_none {ops : List (Op × String)}
    (h : ∀ o ∈ ops, Op.approvalTarget o.1 = none) (target : ApprovalTarget) :
    countAnswers target (ops.map (·.1)) = 0 := by
  unfold countAnswers
  rw [List.countP_eq_zero]
  intro op hop
  obtain ⟨o, ho, rfl⟩ := List.mem_map.mp hop
  simp [h o ho]

theorem countAnswers_singleton {op : Op} {asked : ApprovalTarget}
    (h : op.approvalTarget = some asked) (target : ApprovalTarget) :
    countAnswers target [op] = if asked = target then 1 else 0 := by
  unfold countAnswers
  by_cases htarget : asked = target <;> simp [h, htarget]

/-! ## Steps that file and answer nothing -/

/-- A step that answers nothing, and drops an interaction only when the entries
of its turn are released. -/
theorem audit_keep {d d' : Desk} {ledger : List Entry} {ops : List (Op × String)} (hd : Audit d ledger)
    (q : Entry → Bool) (hlen : d.tasks.length ≤ d'.tasks.length)
    (hops : ∀ o ∈ ops, Op.approvalTarget o.1 = none) (haccepted : d'.accepted = d.accepted ++ ops)
    (hkept : ∀ sid key i, d'.interaction sid key = some i → d.interaction sid key = some i)
    (hlost : ∀ sid key i, d.interaction sid key = some i →
      d'.interaction sid key = some i ∨ ∀ e ∈ ledger, e.turn = sid → q e = true) :
    Audit d' (releaseIf q ledger) where
  settled := by
    intro e he
    obtain ⟨e', he', rfl⟩ := mem_releaseIf he
    by_cases hq : q e' = true
    · rw [if_pos hq]
      exact .inr (.inr rfl)
    rw [if_neg hq]
    rcases hd.settled e' he' with ⟨hnone, key, i, hi, htask⟩ | hanswered
    · rcases hlost _ key i hi with hi' | hreleased
      · exact .inl ⟨hnone, key, i, hi', htask⟩
      · exact absurd (hreleased e' he' rfl) hq
    · exact .inr hanswered
  filed := by
    intro sid key i hi
    obtain ⟨e, he, htask, hturn, htarget, hnone⟩ := hd.filed sid key i (hkept sid key i hi)
    obtain ⟨htask', hturn', htarget', hanswers'⟩ := release_same q e
    exact ⟨if q e then e.release else e, List.mem_map_of_mem he, htask'.trans htask,
      hturn'.trans hturn, htarget'.trans htarget, hanswers'.trans hnone⟩
  started := by
    intro e he n hn
    obtain ⟨e', he', rfl⟩ := mem_releaseIf he
    rw [(release_same q e').1] at hn
    exact Nat.lt_of_lt_of_le (hd.started e' he' n hn) hlen
  own := by
    unfold releaseIf
    rw [filterMap_task_map fun e => (release_same q e).1]
    exact hd.own
  apart sid key i sid' key' i' hi hi' htask :=
    hd.apart sid key i sid' key' i' (hkept _ _ _ hi) (hkept _ _ _ hi') htask
  counted target := by
    rw [haccepted, List.map_append, countAnswers_append, countAnswers_of_none hops, Nat.add_zero,
      booked_releaseIf]
    exact hd.counted target

/-! ## Steps that answer or file a request -/

/-- Two entries with the same task are one. -/
theorem entry_unique {ledger : List Entry} {e e' : Entry} {n : TaskId}
    (hown : (ledger.filterMap (·.task)).Nodup) (he : e ∈ ledger) (he' : e' ∈ ledger)
    (hn : e.task = some n) (hn' : e'.task = some n) : e = e' := by
  induction ledger with
  | nil => cases he
  | cons x ledger ih =>
    have hrest : (ledger.filterMap (·.task)).Nodup := by
      cases hx : x.task with
      | none => rwa [List.filterMap_cons_none hx] at hown
      | some m =>
        rw [List.filterMap_cons_some hx] at hown
        exact (List.nodup_cons.mp hown).2
    have hhead : x.task = some n → ∀ y ∈ ledger, y.task ≠ some n := by
      intro hx y hy hyn
      rw [List.filterMap_cons_some hx] at hown
      exact (List.nodup_cons.mp hown).1 (List.mem_filterMap.mpr ⟨y, hy, hyn⟩)
    rcases List.mem_cons.mp he with heq | hmem
    · rcases List.mem_cons.mp he' with heq' | hmem'
      · exact heq.trans heq'.symm
      · exact absurd hn' (hhead (heq ▸ hn) e' hmem')
    · rcases List.mem_cons.mp he' with heq' | hmem'
      · exact absurd hn (hhead (heq' ▸ hn') e hmem)
      · exact ih hrest hmem hmem'

/-- An interaction is resolved by an op that answers its request. -/
theorem audit_resolved {d d' : Desk} {ledger : List Entry} {sid key id : String} {op : Op}
    {i : PendingPermissionInteraction} (hd : Audit d ledger) (hi : d.interaction sid key = some i)
    (hop : op.approvalTarget = some i.request.target) (htasks : d'.tasks = d.tasks)
    (haccepted : d'.accepted = d.accepted ++ [(op, id)])
    (hrest : ∀ sid' key' j, d'.interaction sid' key' = some j ↔
      ¬ (sid' = sid ∧ key' = key) ∧ d.interaction sid' key' = some j) :
    Audit d' (answerTask i.task [op] ledger) := by
  obtain ⟨e₀, he₀, htask₀, _, htarget₀, hnone₀⟩ := hd.filed sid key i hi
  have hsame : ∀ e : Entry, (if e.task = some i.task then e.answer [op] else e).task = e.task := by
    intro e
    split <;> rfl
  constructor
  · intro e he
    obtain ⟨e', he', rfl⟩ := List.mem_map.mp he
    by_cases htask : e'.task = some i.task
    · have heq := entry_unique hd.own he' he₀ htask htask₀
      subst heq
      rw [if_pos htask]
      refine .inr (.inl ⟨op, ?_, ?_⟩)
      · simp [Entry.answer, hnone₀]
      · rw [hop]
        exact congrArg some htarget₀.symm
    · rw [if_neg htask]
      rcases hd.settled e' he' with ⟨hnone, key', j, hj, hjtask⟩ | hanswered
      · refine .inl ⟨hnone, key', j, (hrest _ _ _).mpr ⟨?_, hj⟩, hjtask⟩
        rintro ⟨rfl, rfl⟩
        rw [hi] at hj
        cases hj
        exact htask hjtask
      · exact .inr hanswered
  · intro sid' key' j hj
    obtain ⟨hne, hj'⟩ := (hrest _ _ _).mp hj
    obtain ⟨e, he, htask, hturn, htarget, hnone⟩ := hd.filed sid' key' j hj'
    -- Another key has another task, so its entry is not the one booked.
    have hother : e.task ≠ some i.task := by
      intro h
      rw [h] at htask
      exact hne (hd.apart _ _ _ _ _ _ hj' hi (Option.some.inj htask).symm)
    exact ⟨e, List.mem_map.mpr ⟨e, he, if_neg hother⟩, htask, hturn, htarget, hnone⟩
  · intro e he n hn
    obtain ⟨e', he', rfl⟩ := List.mem_map.mp he
    rw [hsame] at hn
    rw [htasks]
    exact hd.started e' he' n hn
  · unfold answerTask
    rw [filterMap_task_map hsame]
    exact hd.own
  · intro sid' key' j sid'' key'' j' hj hj' htask
    exact hd.apart _ _ _ _ _ _ ((hrest _ _ _).mp hj).2 ((hrest _ _ _).mp hj').2 htask
  · intro target
    rw [haccepted, List.map_append, countAnswers_append, hd.counted target,
      booked_answerTask hd.own he₀ htask₀, List.map_singleton, countAnswers_singleton hop, htarget₀]

/-- A request is answered as soon as it is made. -/
theorem audit_answeredAtOnce {d d' : Desk} {ledger : List Entry} {turn id : String} {op : Op}
    {target : ApprovalTarget} (hd : Audit d ledger) (hop : op.approvalTarget = some target)
    (htasks : d'.tasks = d.tasks) (haccepted : d'.accepted = d.accepted ++ [(op, id)])
    (hkept : ∀ sid key, d'.interaction sid key = d.interaction sid key) :
    Audit d' (ledger ++ [⟨target, turn, none, [op], false⟩]) where
  settled e he := by
    rcases List.mem_append.mp he with he | he
    · rcases hd.settled e he with ⟨hnone, key, i, hi, htask⟩ | hanswered
      · exact .inl ⟨hnone, key, i, by rw [hkept]; exact hi, htask⟩
      · exact .inr hanswered
    · rw [List.mem_singleton.mp he]
      exact .inr (.inl ⟨op, rfl, hop⟩)
  filed sid key i hi := by
    rw [hkept] at hi
    obtain ⟨e, he, hfiled⟩ := hd.filed sid key i hi
    exact ⟨e, List.mem_append_left _ he, hfiled⟩
  started e he n hn := by
    rcases List.mem_append.mp he with he | he
    · rw [htasks]
      exact hd.started e he n hn
    · rw [List.mem_singleton.mp he] at hn
      cases hn
  own := by
    rw [List.filterMap_append]
    simpa using hd.own
  apart sid key i sid' key' i' hi hi' htask := by
    rw [hkept] at hi hi'
    exact hd.apart _ _ _ _ _ _ hi hi' htask
  counted asked := by
    rw [haccepted, List.map_append, countAnswers_append, booked_append, hd.counted,
      List.map_singleton, countAnswers_singleton hop]
    rfl

/-- A request is filed, with a new task, under a key that was free. -/
theorem audit_requested {d d' : Desk} {ledger : List Entry} {sid key : String}
    {i : PendingPermissionInteraction} (hd : Audit d ledger)
    (hlen : d'.tasks.length = d.tasks.length + 1) (haccepted : d'.accepted = d.accepted) (htask : i.task = d.tasks.length)
    (hfree : d.interaction sid key = none)
    (hfiled : ∀ sid' key' j, d'.interaction sid' key' = some j ↔
      (sid' = sid ∧ key' = key ∧ j = i) ∨
        (¬ (sid' = sid ∧ key' = key) ∧ d.interaction sid' key' = some j)) :
    Audit d' (ledger ++ [⟨i.request.target, sid, some d.tasks.length, [], false⟩]) := by
  -- A task filed before was started before.
  have hold : ∀ sid' key' j, d.interaction sid' key' = some j → j.task < d.tasks.length := by
    intro sid' key' j hj
    obtain ⟨e, he, hjtask, _⟩ := hd.filed sid' key' j hj
    exact hd.started e he _ hjtask
  constructor
  · intro e he
    rcases List.mem_append.mp he with he | he
    · rcases hd.settled e he with ⟨hnone, key', j, hj, hjtask⟩ | hanswered
      · refine .inl ⟨hnone, key', j, (hfiled _ _ _).mpr (.inr ⟨?_, hj⟩), hjtask⟩
        rintro ⟨hsid, rfl⟩
        rw [hsid, hfree] at hj
        cases hj
      · exact .inr hanswered
    · rw [List.mem_singleton.mp he]
      exact .inl ⟨rfl, key, i, (hfiled _ _ _).mpr (.inl ⟨rfl, rfl, rfl⟩), by rw [htask]⟩
  · intro sid' key' j hj
    rcases (hfiled _ _ _).mp hj with ⟨rfl, rfl, rfl⟩ | ⟨_, hj⟩
    · exact ⟨_, List.mem_append_right _ (List.mem_singleton.mpr rfl), by rw [htask], rfl, rfl, rfl⟩
    · obtain ⟨e, he, hentry⟩ := hd.filed sid' key' j hj
      exact ⟨e, List.mem_append_left _ he, hentry⟩
  · intro e he n hn
    rw [hlen]
    rcases List.mem_append.mp he with he | he
    · exact Nat.lt_succ_of_lt (hd.started e he n hn)
    · rw [List.mem_singleton.mp he] at hn
      cases hn
      exact Nat.lt_succ_self _
  · rw [List.filterMap_append]
    refine List.nodup_append.mpr ⟨hd.own, by simp, ?_⟩
    intro n hn m hm
    obtain ⟨e, he, hen⟩ := List.mem_filterMap.mp hn
    have hlt := hd.started e he n hen
    simp only [List.filterMap_cons, List.filterMap_nil, List.mem_singleton] at hm
    rw [hm]
    exact Nat.ne_of_lt hlt
  · intro sid' key' j sid'' key'' j' hj hj' hsame
    rcases (hfiled _ _ _).mp hj with ⟨rfl, rfl, rfl⟩ | ⟨_, hj⟩
    -- One of the two may be the new request, whose task no older one has.
    · rcases (hfiled _ _ _).mp hj' with ⟨rfl, rfl, _⟩ | ⟨_, hj'⟩
      · exact ⟨rfl, rfl⟩
      · exact absurd (hsame.symm.trans htask) (Nat.ne_of_lt (hold _ _ _ hj'))
    · rcases (hfiled _ _ _).mp hj' with ⟨rfl, rfl, rfl⟩ | ⟨_, hj'⟩
      · exact absurd (hsame.trans htask) (Nat.ne_of_lt (hold _ _ _ hj))
      · exact hd.apart _ _ _ _ _ _ hj hj' hsame
  · intro target
    rw [haccepted, booked_append, hd.counted]
    simp

/-! ## Steps of the actor -/

theorem lookup_of_isEmpty {interactions : PermissionInteractions}
    (h : interactions.entries.isEmpty = true) (key : String) : interactions.lookup key = none := by
  rw [AList.lookup_eq_none, AList.mem_keys, AList.keys, List.isEmpty_iff.mp h]
  simp

/-- Nothing is filed, answered or dropped. -/
theorem audit_same {d d' : Desk} {ledger : List Entry} {ops : List (Op × String)}
    (hd : Audit d ledger) (q : Entry → Bool) (hlen : d.tasks.length ≤ d'.tasks.length)
    (hops : ∀ o ∈ ops, Op.approvalTarget o.1 = none) (haccepted : d'.accepted = d.accepted ++ ops)
    (hsame : ∀ sid key, d'.interaction sid key = d.interaction sid key) :
    Audit d' (releaseIf q ledger) :=
  audit_keep hd q hlen hops haccepted (fun sid key i h => by rwa [hsame] at h)
    fun sid key i h => .inl (by rwa [hsame])

theorem audit_unchanged {d d' : Desk} {ledger : List Entry} {ops : List (Op × String)}
    (hd : Audit d ledger) (hlen : d.tasks.length ≤ d'.tasks.length)
    (hops : ∀ o ∈ ops, Op.approvalTarget o.1 = none) (haccepted : d'.accepted = d.accepted ++ ops)
    (hsame : ∀ sid key, d'.interaction sid key = d.interaction sid key) : Audit d' ledger := by
  have hkeep := audit_same hd (fun _ => false) hlen hops haccepted hsame
  rwa [show releaseIf (fun _ => false) ledger = ledger from List.map_id ledger] at hkeep

theorem no_ops : ∀ o ∈ ([] : List (Op × String)), Op.approvalTarget o.1 = none := by
  intro o ho
  cases ho

theorem audit_settle {d : Desk} {ledger : List Entry} (hd : Audit d ledger) (q : Entry → Bool)
    (event : Event) : Audit (d.settle event) (releaseIf q ledger) :=
  audit_same hd q (by rw [Desk.settle_tasks]) no_ops
    (by rw [Desk.settle_accepted, List.append_nil]) (settle_interaction event d)

/-- A submission is opened, with nothing filed, under a fresh id. -/
theorem audit_opened {d d' : Desk} {ledger : List Entry} {ops : List (Op × String)} {op : Op}
    {id : String} {p : PromptState} (hd : Audit d ledger) (q : Entry → Bool)
    (hops : ∀ o ∈ ops, Op.approvalTarget o.1 = none) (hop : op.approvalTarget = none)
    (hfree : d.submissions.lookup id = none) (hp : p.permissionInteractions = ∅)
    (hsubs : d'.submissions = d.submissions.insert id p) (htasks : d'.tasks = d.tasks)
    (haccepted : d'.accepted = d.accepted ++ ops ++ [(op, id)]) : Audit d' (releaseIf q ledger) := by
  have hall : ∀ o ∈ ops ++ [(op, id)], Op.approvalTarget o.1 = none := by
    intro o ho
    rcases List.mem_append.mp ho with ho | ho
    · exact hops o ho
    · rw [List.mem_singleton.mp ho]
      exact hop
  exact audit_same hd q (by rw [htasks]) hall (by rw [haccepted, List.append_assoc])
    (interaction_insert hsubs hfree hp)

/-- An accepted interrupt or shutdown drops every request and releases its entry. -/
theorem audit_stopped {d : Desk} {ledger : List Entry} {op : Op} {id : String} {q : Entry → Bool}
    (hd : Audit d ledger) (hop : op.approvalTarget = none) (hq : ∀ e, q e = true) :
    Audit (d.clear.accept op id) (releaseIf q ledger) := by
  have hnone : ∀ o ∈ [(op, id)], Op.approvalTarget o.1 = none := List.forall_mem_singleton.mpr hop
  refine audit_keep hd q (Nat.le_of_eq (length_abortAll _ _).symm) hnone rfl ?_ ?_
  · intro sid key i hi
    rw [show (d.clear.accept op id).interaction sid key = d.clear.interaction sid key from rfl,
      interaction_clear] at hi
    cases hi
  · intro sid key i _
    exact .inr fun e _ _ => hq e

/-- The end of a turn drops the requests of its submission and releases their entries. -/
theorem audit_finished {d : Desk} {ledger : List Entry} {event : Event} {p : PromptState}
    {result : PromptResult} {q : Entry → Bool} (hd : Audit d ledger)
    (hq : ∀ e : Entry, e.turn = event.id → q e = true) :
    Audit ((d.finish event.id p result).settle event) (releaseIf q ledger) := by
  have hdrop : ∀ sid key, ((d.finish event.id p result).settle event).interaction sid key =
      if sid = event.id then none else d.interaction sid key := by
    intro sid key
    rw [settle_interaction]
    exact interaction_drop rfl rfl sid key
  refine audit_keep hd q ?_ no_ops ?_ ?_ ?_
  · rw [Desk.settle_tasks]
    exact Nat.le_of_eq (length_abortAll _ _).symm
  · rw [Desk.settle_accepted]
    exact (List.append_nil _).symm
  · intro sid key i hi
    rw [hdrop] at hi
    split at hi
    · cases hi
    · exact hi
  · intro sid key i hi
    rw [hdrop]
    by_cases hsid : sid = event.id
    · exact .inr fun e _ hturn => hq e (hturn.trans hsid)
    · rw [if_neg hsid]
      exact .inl hi

/-- Collection loses no request where the submissions it drops have none. -/
theorem audit_collected {d : Desk} {ledger : List Entry} (hd : Audit d ledger)
    (hempty : ∀ sid p, d.submissions.lookup sid = some p →
      ((p.responses.all.any fun waiter => waiter ∉ d.closed) ||
        d.pendingSubmission = some sid) = true ∨ p.permissionInteractions.entries.isEmpty = true) :
    Audit d.collect ledger := by
  refine audit_unchanged hd (Nat.le_refl _) no_ops (List.append_nil _).symm fun sid key => ?_
  ext i
  rw [interaction_collect]
  refine and_iff_right_of_imp fun hi => ?_
  obtain ⟨p, hp, hkey⟩ := Option.bind_eq_some_iff.mp hi
  rcases hempty sid p hp with hkept | hnothing
  · exact Option.isSome_iff_exists.mpr ⟨p, Dict.lookup_retain_eq_some.mpr ⟨hp, hkept⟩⟩
  · rw [lookup_of_isEmpty hnothing key] at hkey
    cases hkey

/-! ## What the auditor observes -/

theorem acceptedSince_append {d d' : Desk} {ops : List (Op × String)}
    (h : d'.accepted = d.accepted ++ ops) : acceptedSince d d' = ops.map (·.1) := by
  unfold acceptedSince
  rw [h, List.drop_left]

/-- An event that asks for no approval and ends no turn leaves the ledger alone. -/
theorem observe_passed {d d' : Desk} {event : Event} {ledger : List Entry}
    (hask : askedTarget event.msg = none) (hterminal : terminalResult event.msg = none) :
    observe d (.event event) d' ledger = ledger := by
  unfold observe
  simp [hask, hterminal]

/-- An approval event answered with one accepted op, and no task. -/
theorem observe_answeredAtOnce {d : Desk} {event : Event} {ledger : List Entry} {op : Op}
    {id : String} {target : ApprovalTarget} (hask : askedTarget event.msg = some target) :
    observe d (.event event) (d.accept op id) ledger =
      ledger ++ [⟨target, event.id, none, [op], false⟩] := by
  have hops : acceptedSince d (d.accept op id) = [(op, id)].map (·.1) := acceptedSince_append rfl
  unfold observe
  dsimp only
  rw [hask, hops]
  dsimp only
  rw [if_neg (show ¬ d.tasks.length < (d.accept op id).tasks.length from Nat.lt_irrefl _)]
  rfl

/-- An approval event put to the user. -/
theorem observe_requested {d : Desk} {event : Event} {ledger : List Entry} {p : PromptState}
    {request : PermissionInteractionRequest} {target : ApprovalTarget}
    (hask : askedTarget event.msg = some target) :
    observe d (.event event) (d.request event.id p request) ledger =
      ledger ++ [⟨target, event.id, some d.tasks.length, [], false⟩] := by
  have hops : acceptedSince d (d.request event.id p request) = ([] : List (Op × String)).map (·.1) :=
    acceptedSince_append (List.append_nil _).symm
  have hlen : (d.request event.id p request).tasks.length = d.tasks.length + 1 :=
    length_request d event.id p request
  unfold observe
  simp [hask, hops, hlen]

/-- An event that asks for no approval at most releases the entries of its turn. -/
theorem observe_released {d d' : Desk} {event : Event} {ledger : List Entry}
    (hask : askedTarget event.msg = none) :
    observe d (.event event) d' ledger = releaseIf
      (fun e => (terminalResult event.msg).isSome && decide (e.turn = event.id)) ledger := by
  unfold observe
  dsimp only
  rw [hask]
  dsimp only
  cases (terminalResult event.msg).isSome
  · exact (List.map_id ledger).symm
  · rfl

end CodexAcp.Thread
