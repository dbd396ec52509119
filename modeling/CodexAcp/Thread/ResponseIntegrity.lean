import CodexAcp.Thread.Interactions

/-!
# A response answers its own request

A permission task reports with the id of its submission and the key of its
request, and nothing that tells two requests under one key apart: whatever
interaction is filed there when the message is handled gets the answer. The key
of an exec approval is its call, and one call can ask for several approvals.

Displacing an interaction cancels its task, but a task past its suspension
point still reports. So the property depends on what is under way when a
request is filed:

> `responses_intact`: on every run that files no request under a key whose
> earlier response is on its way, a response is only ever turned into the op of
> its own request.
> `response_crosses`: a run on which the answer to one approval of a call
> approves the next one.

The invariant is that whatever may still report under a key owns the
interaction filed there (`Integrity.owner`).
-/

namespace CodexAcp.Thread

open CodexAcp.Lib CodexAcp.Protocol CodexAcp.Boundary

/-! ## What may still report -/

/-- A task whose message has not been sent yet, and will be unless it is cancelled. -/
def TaskState.pending : TaskState → Bool
  | .waiting | .responded _ => true
  | .finished | .aborted => false

/-- Task `n` may still be heard under a submission and a key. -/
inductive MayReport (d : Desk) (n : TaskId) (sid key : String) : Prop where
  | task {t : Task} (ht : d.tasks[n]? = some t) (hpending : t.state.pending)
      (hsid : t.submissionId = sid) (hkey : t.request.requestKey = key)
  | queued {response : PermissionResult} (h : (n, ⟨sid, key, response⟩) ∈ d.resolutions)

/-! ## The invariant -/

/-- An interaction is the pending request of its task. -/
def Filed (d : Desk) : Prop :=
  ∀ sid key i, d.interaction sid key = some i →
    ∃ t, d.tasks[i.task]? = some t ∧ t.request.pendingRequest = i.request

structure Integrity (d : Desk) : Prop where
  /-- What may report under a key is the task of the interaction filed there. -/
  owner : ∀ n sid key i, MayReport d n sid key → d.interaction sid key = some i → i.task = n
  /-- An interaction is the pending request of its task. -/
  filed : ∀ sid key i, d.interaction sid key = some i →
    ∃ t, d.tasks[i.task]? = some t ∧ t.request.pendingRequest = i.request
  /-- A submission knows the id it is held under. -/
  submissionId : ∀ sid p, d.submissions.lookup sid = some p → p.submissionId = sid

theorem integrity_start (config : Config) (models : ModelsManager) :
    Integrity (Running.start config models).actor.desk where
  owner := by
    intro n sid key i hreport _
    cases hreport with
    | task ht => cases ht
    | queued h => cases h
  filed := by
    intro sid key i h
    cases h
  submissionId := by
    intro sid p h
    cases h

/-! ## Steps that file no request -/

/-- The submissions of `s'` are those of `s`, or new and empty, with at most the
interactions they had. -/
def Fewer (s s' : Dict String PromptState) : Prop :=
  ∀ sid p', s'.lookup sid = some p' → p'.submissionId = sid ∧
    ∀ key i, p'.permissionInteractions.lookup key = some i →
      ∃ p, s.lookup sid = some p ∧ p.permissionInteractions.lookup key = some i

section Fewer

variable {s : Dict String PromptState}

theorem fewer_refl (hid : ∀ sid p, s.lookup sid = some p → p.submissionId = sid) : Fewer s s :=
  fun sid p h => ⟨hid sid p h, fun _ _ hi => ⟨p, h, hi⟩⟩

/-- A new submission has nothing filed. -/
theorem fewer_insert (hid : ∀ sid p, s.lookup sid = some p → p.submissionId = sid) {id : String}
    {p : PromptState} (hp : p.submissionId = id) (hempty : p.permissionInteractions = ∅) :
    Fewer s (s.insert id p) := by
  intro sid p' h
  rcases Dict.lookup_insert_eq_some.mp h with ⟨rfl, rfl⟩ | ⟨_, h⟩
  · refine ⟨hp, fun key i hi => ?_⟩
    rw [hempty] at hi
    cases hi
  · exact fewer_refl hid sid p' h

/-- A submission replaced by one with at most its interactions. -/
theorem fewer_set (hid : ∀ sid p, s.lookup sid = some p → p.submissionId = sid) {id : String}
    {p q : PromptState} (hp : s.lookup id = some p) (hq : q.submissionId = p.submissionId)
    (hsub : ∀ key i, q.permissionInteractions.lookup key = some i →
      p.permissionInteractions.lookup key = some i) : Fewer s (s.set id q) := by
  intro sid p' h
  rcases Dict.lookup_set_eq_some h with ⟨rfl, rfl⟩ | ⟨_, h⟩
  · exact ⟨hq.trans (hid sid p hp), fun key i hi => ⟨p, hp, hsub key i hi⟩⟩
  · exact fewer_refl hid sid p' h

theorem fewer_clear (hid : ∀ sid p, s.lookup sid = some p → p.submissionId = sid) :
    Fewer s (s.mapValues fun _ p => { p with permissionInteractions := ∅ }) := by
  intro sid p' h
  rw [Dict.lookup_mapValues] at h
  obtain ⟨p, hp, rfl⟩ := Option.map_eq_some_iff.mp h
  exact ⟨hid sid p hp, fun key i hi => by cases hi⟩

theorem fewer_retain (hid : ∀ sid p, s.lookup sid = some p → p.submissionId = sid)
    (keep : String → PromptState → Bool) : Fewer s (s.retain keep) := by
  intro sid p' h
  exact fewer_refl hid sid p' (Dict.lookup_retain_eq_some.mp h).1

theorem fewer_ensure {d : Desk} (hid : ∀ sid p, d.submissions.lookup sid = some p →
    p.submissionId = sid) (id : String) : Fewer d.submissions (d.ensure id).submissions := by
  unfold Desk.ensure
  dsimp only
  split
  · exact fewer_refl hid
  · exact fewer_insert hid rfl rfl

theorem Fewer.trans {s' s'' : Dict String PromptState} (h : Fewer s s') (h' : Fewer s' s'') :
    Fewer s s'' := by
  intro sid p'' hp''
  obtain ⟨hid, hsub⟩ := h' sid p'' hp''
  refine ⟨hid, fun key i hi => ?_⟩
  obtain ⟨p', hp', hi'⟩ := hsub key i hi
  exact (h sid p' hp').2 key i hi'

end Fewer

/-- Tasks only move on: the same tasks, and one that may still report could before. -/
def Advanced (tasks tasks' : List Task) : Prop :=
  tasks'.length = tasks.length ∧ ∀ (n : TaskId) (t' : Task), tasks'[n]? = some t' →
    ∃ t : Task, tasks[n]? = some t ∧ t'.submissionId = t.submissionId ∧ t'.request = t.request ∧
      (t'.state.pending → t.state.pending)

theorem advanced_refl (tasks : List Task) : Advanced tasks tasks :=
  ⟨rfl, fun _ t h => ⟨t, h, rfl, rfl, id⟩⟩

theorem Task.abort_pending {t : Task} (h : t.abort.state.pending) : t.state.pending := by
  obtain ⟨submissionId, request, state⟩ := t
  cases state
  · rfl
  all_goals exact h

theorem advanced_abortAll (ns : List TaskId) (tasks : List Task) :
    Advanced tasks (abortAll ns tasks) := by
  refine ⟨length_abortAll ns tasks, fun n t' h => ?_⟩
  rw [getElem?_abortAll] at h
  split at h
  next =>
    obtain ⟨t, ht, rfl⟩ := Option.map_eq_some_iff.mp h
    refine ⟨t, ht, ?_, ?_, Task.abort_pending⟩
    · obtain ⟨_, _, state⟩ := t
      cases state <;> rfl
    · obtain ⟨_, _, state⟩ := t
      cases state <;> rfl
  next => exact advanced_refl tasks |>.2 n t' h

/-- One task changes its state, and could report before. -/
theorem advanced_modify {tasks : List Task} {n : TaskId} {t : Task} (ht : tasks[n]? = some t)
    (hpending : t.state.pending) (state : TaskState) :
    Advanced tasks (tasks.modify n fun t => { t with state := state }) := by
  refine ⟨List.length_modify .., fun m t' h => ?_⟩
  rw [List.getElem?_modify] at h
  by_cases hnm : n = m
  · subst hnm
    simp only [ht, if_true, Option.map_eq_map, Option.map_some, Option.some.injEq] at h
    subst h
    exact ⟨t, ht, rfl, rfl, fun _ => hpending⟩
  · simp only [hnm, if_false, Option.map_eq_map, Option.map_id'] at h
    exact advanced_refl tasks |>.2 m t' h

/-- A step that files no request. -/
structure FilesNothing (d d' : Desk) : Prop where
  submissions : Fewer d.submissions d'.submissions
  tasks : Advanced d.tasks d'.tasks
  /-- A queued message was queued before or comes from a task that was to send it. -/
  resolutions : ∀ n message, (n, message) ∈ d'.resolutions →
    MayReport d n message.submissionId message.requestKey

theorem FilesNothing.mayReport {d d' : Desk} (h : FilesNothing d d') {n : TaskId}
    {sid key : String} (hreport : MayReport d' n sid key) : MayReport d n sid key := by
  cases hreport with
  | task ht hpending hsid hkey =>
    obtain ⟨t, ht', hsid', hrequest, hpending'⟩ := h.tasks.2 n _ ht
    exact .task ht' (hpending' hpending) (hsid'.symm.trans hsid) (by rw [← hrequest]; exact hkey)
  | queued hq => exact h.resolutions n _ hq

theorem FilesNothing.interaction {d d' : Desk} (h : FilesNothing d d') {sid key : String}
    {i : PendingPermissionInteraction} (hi : d'.interaction sid key = some i) :
    d.interaction sid key = some i := by
  obtain ⟨p', hp', hi'⟩ := Option.bind_eq_some_iff.mp hi
  obtain ⟨p, hp, hi''⟩ := (h.submissions sid p' hp').2 key i hi'
  exact Option.bind_eq_some_iff.mpr ⟨p, hp, hi''⟩

/-- Tasks only move on, so a task keeps its request. -/
theorem FilesNothing.exists_task {d d' : Desk} (h : FilesNothing d d') {n : TaskId} {t : Task}
    (ht : d.tasks[n]? = some t) : ∃ t', d'.tasks[n]? = some t' ∧ t'.request = t.request := by
  have hlt : n < d'.tasks.length := by
    rw [h.tasks.1]
    exact (List.getElem?_eq_some_iff.mp ht).1
  obtain ⟨u, hu, _, hrequest, _⟩ := h.tasks.2 n _ (List.getElem?_eq_getElem hlt)
  rw [ht] at hu
  cases hu
  exact ⟨_, List.getElem?_eq_getElem hlt, hrequest⟩

theorem FilesNothing.filed {d d' : Desk} (h : FilesNothing d d') (hd : Filed d) : Filed d' := by
  intro sid key i hi
  obtain ⟨t, ht, hrequest⟩ := hd sid key i (h.interaction hi)
  obtain ⟨t', ht', hrequest'⟩ := h.exists_task ht
  exact ⟨t', ht', by rw [hrequest', hrequest]⟩

theorem integrity_filesNothing {d d' : Desk} (hd : Integrity d) (h : FilesNothing d d') :
    Integrity d' where
  owner n sid key i hreport hi :=
    hd.owner n sid key i (h.mayReport hreport) (h.interaction hi)
  filed := h.filed hd.filed
  submissionId sid p hp := (h.submissions sid p hp).1

/-! ## Filing a request -/

/-- Nothing is on its way under a submission and a key, except the task of the
interaction filed there while the client has not responded to it. -/
structure NothingOnItsWay (d : Desk) (sid key : String) : Prop where
  waiting : ∀ (n : TaskId) (t : Task), d.tasks[n]? = some t → t.submissionId = sid →
    t.request.requestKey = key → t.state = .waiting → ∃ i, d.interaction sid key = some i ∧ i.task = n
  responded : ∀ (n : TaskId) (t : Task) (response : PermissionResult), d.tasks[n]? = some t →
    t.submissionId = sid → t.request.requestKey = key → t.state ≠ .responded response
  queued : ∀ entry ∈ d.resolutions, ¬ (entry.2.submissionId = sid ∧ entry.2.requestKey = key)

/-- A task after a request was filed: the new one, or one from before that was
cancelled if it was the displaced one. -/
theorem getElem?_request {d : Desk} {sid : String} {p : PromptState}
    {request : PermissionInteractionRequest} {n : TaskId} {t : Task}
    (h : (d.request sid p request).tasks[n]? = some t) :
    (n = d.tasks.length ∧ t.submissionId = p.submissionId ∧ t.request = request) ∨
      ∃ u, d.tasks[n]? = some u ∧ t.submissionId = u.submissionId ∧ t.request = u.request ∧
        (t.state.pending → u.state.pending) ∧
        ∀ i, p.permissionInteractions.lookup request.requestKey = some i → i.task = n →
          t = u.abort := by
  obtain ⟨_, hadvanced⟩ := advanced_abortAll
    ((p.permissionInteractions.lookup request.requestKey).toList.map (·.task))
    (d.tasks ++ [{ submissionId := p.submissionId, request := request, state := .waiting }])
  obtain ⟨u, hu, hsid, hrequest, hpending⟩ := hadvanced n t h
  rcases Nat.lt_trichotomy n d.tasks.length with hlt | heq | hgt
  · rw [List.getElem?_append_left hlt] at hu
    refine .inr ⟨u, hu, hsid, hrequest, hpending, fun i hi hn => ?_⟩
    unfold Desk.request at h
    rw [getElem?_abortAll, if_pos (by rw [hi, ← hn]; simp), List.getElem?_append_left hlt, hu] at h
    cases h
    rfl
  · subst heq
    rw [List.getElem?_concat_length] at hu
    cases hu
    exact .inl ⟨rfl, hsid, hrequest⟩
  · rw [List.getElem?_eq_none (by simp; omega)] at hu
    cases hu

/-- The tasks there were keep their requests. -/
theorem exists_task_request {d : Desk} {sid : String} {p : PromptState}
    {request : PermissionInteractionRequest} {n : TaskId} {t : Task} (ht : d.tasks[n]? = some t) :
    ∃ t', (d.request sid p request).tasks[n]? = some t' ∧ t'.request = t.request := by
  have hlt : n < d.tasks.length := (List.getElem?_eq_some_iff.mp ht).1
  have hlt' : n < (d.request sid p request).tasks.length := by
    rw [length_request]
    exact Nat.lt_succ_of_lt hlt
  refine ⟨_, List.getElem?_eq_getElem hlt', ?_⟩
  rcases getElem?_request (List.getElem?_eq_getElem hlt') with ⟨heq, _⟩ | ⟨u, hu, _, hrequest, _⟩
  · exact absurd heq (Nat.ne_of_lt hlt)
  · rw [ht] at hu
    cases hu
    exact hrequest

theorem filed_request {d : Desk} {sid : String} {p : PromptState}
    {request : PermissionInteractionRequest} (hp : d.submissions.lookup sid = some p)
    (hd : Filed d) : Filed (d.request sid p request) := by
  intro sid' key i hi
  rcases (interaction_request rfl hp _ _ _).mp hi with ⟨rfl, rfl, rfl⟩ | ⟨_, hi⟩
  · have hlt : d.tasks.length < (d.request sid' p request).tasks.length := by
      rw [length_request]
      omega
    refine ⟨_, List.getElem?_eq_getElem hlt, ?_⟩
    rcases getElem?_request (List.getElem?_eq_getElem hlt) with ⟨_, _, hrequest⟩ | ⟨u, hu, _⟩
    · rw [hrequest]
    · rw [List.getElem?_eq_none (Nat.le_refl _)] at hu
      cases hu
  · obtain ⟨t, ht, hrequest⟩ := hd sid' key i hi
    obtain ⟨t', ht', hrequest'⟩ := @exists_task_request _ sid p request _ _ ht
    exact ⟨t', ht', by rw [hrequest', hrequest]⟩

theorem submissionId_request {d : Desk} {sid : String} {p : PromptState}
    {request : PermissionInteractionRequest} (hp : d.submissions.lookup sid = some p)
    (hid : ∀ sid p, d.submissions.lookup sid = some p → p.submissionId = sid) :
    ∀ sid' p', (d.request sid p request).submissions.lookup sid' = some p' →
      p'.submissionId = sid' := by
  intro sid' p' hp'
  rcases Dict.lookup_set_eq_some hp' with ⟨rfl, rfl⟩ | ⟨_, hp'⟩
  · exact hid _ p hp
  · exact hid sid' p' hp'

theorem integrity_request {d : Desk} {sid : String} {p : PromptState}
    {request : PermissionInteractionRequest} (hd : Integrity d)
    (hp : d.submissions.lookup sid = some p)
    (hfree : NothingOnItsWay d sid request.requestKey) :
    Integrity (d.request sid p request) where
  owner := by
    intro n sid' key i hreport hi
    rcases (interaction_request rfl hp _ _ _).mp hi with ⟨rfl, rfl, rfl⟩ | ⟨hne, hi⟩
    · cases hreport with
      -- The request is the one filed: whatever may report under its key is its own task.
      | queued hq => exact absurd ⟨rfl, rfl⟩ (hfree.queued _ hq)
      | @task t ht hpending hsid hkey =>
        rcases getElem?_request ht with ⟨rfl, _, _⟩ | ⟨u, hu, hsid', hrequest, hpending', haborted⟩
        · rfl
        rw [hsid'] at hsid
        rw [hrequest] at hkey
        exfalso
        match hstate : u.state with
        | .responded response => exact hfree.responded n u response hu hsid hkey hstate
        | .waiting =>
          -- The displaced interaction's task is cancelled, so it is not heard any more.
          obtain ⟨j, hj, hn⟩ := hfree.waiting n u hu hsid hkey hstate
          obtain ⟨p', hp', hj⟩ := Option.bind_eq_some_iff.mp hj
          rw [hp] at hp'
          cases hp'
          rw [haborted j hj hn, Task.abort, hstate] at hpending
          cases hpending
        | .finished | .aborted =>
          rw [hstate] at hpending'
          cases hpending' hpending
    · cases hreport with
      -- Another interaction, which was there before; so was the task that may report to it.
      | queued hq => exact hd.owner n sid' key i (.queued hq) hi
      | @task t ht hpending hsid hkey =>
        rcases getElem?_request ht with ⟨_, hsid', hrequest⟩ | ⟨u, hu, hsid', hrequest, hpending', _⟩
        · rw [hsid', hd.submissionId sid p hp] at hsid
          rw [hrequest] at hkey
          exact absurd ⟨hsid.symm, hkey.symm⟩ hne
        · refine hd.owner n sid' key i (.task hu (hpending' hpending) ?_ ?_) hi
          · rw [← hsid', hsid]
          · rw [← hrequest, hkey]
  filed := filed_request hp hd.filed
  submissionId := submissionId_request hp hd.submissionId

/-! ## Every step -/

/-- No request is filed under a key whose earlier response is on its way. -/
def KeyIsFree (codex : Codex) (r : Running) (l : Label) (_ : Running) : Prop :=
  ∀ event request, l = .event event → GoesToSubmission r.actor event →
    approvalRequest codex event.msg = some request →
    (r.actor.submissions.lookup event.id).isSome →
    NothingOnItsWay r.actor.desk event.id request.requestKey

/-- Submissions with no new request, tasks that moved on, and no new message. -/
theorem filesNothing {d d' : Desk} (hsubs : Fewer d.submissions d'.submissions)
    (htasks : Advanced d.tasks d'.tasks) (hqueue : ∀ entry ∈ d'.resolutions, entry ∈ d.resolutions) :
    FilesNothing d d' :=
  ⟨hsubs, htasks, fun n message h => .queued (hqueue (n, message) h)⟩

/-- Only the submissions changed. -/
theorem filesNothing_submissions {d d' : Desk} (hsubs : Fewer d.submissions d'.submissions)
    (htasks : d'.tasks = d.tasks) (hqueue : d'.resolutions = d.resolutions) :
    FilesNothing d d' :=
  filesNothing hsubs (htasks ▸ advanced_refl d.tasks) (by rw [hqueue]; exact fun _ h => h)

theorem filesNothing_settle {d d' : Desk} (h : FilesNothing d d') (event : Event) :
    FilesNothing d (d'.settle event) := by
  unfold Desk.settle
  split
  · exact ⟨h.submissions, h.tasks, h.resolutions⟩
  · exact h

/-- **Every step** files no request, or the one its event asks for. -/
theorem step_files {codex : Codex} {r r' : Running} {l : Label}
    (hid : ∀ sid p, r.actor.desk.submissions.lookup sid = some p → p.submissionId = sid)
    (hstep : r.step codex l = some r') : FilesNothing r.actor.desk r'.actor.desk ∨
      ∃ event request p, l = .event event ∧ GoesToSubmission r.actor event ∧
        approvalRequest codex event.msg = some request ∧
        r.actor.desk.submissions.lookup event.id = some p ∧
        r'.actor.desk = r.actor.desk.request event.id p request := by
  cases step_effect hstep with
  | requested hroute hask hp h => exact .inr ⟨_, _, _, rfl, hroute, hask, hp, h⟩
  | quiet _ h | shown _ _ _ h | replayed h | registered _ _ h | autoApproved _ _ _ h
  | declined _ _ _ _ h | closed _ h =>
    rw [h]
    exact .inl (filesNothing_submissions (fewer_refl hid) rfl rfl)
  | idle _ h | autoApprovalRefused _ _ _ h =>
    rw [h]
    exact .inl (filesNothing_submissions (fewer_refl hid) rfl rfl)
  | opened _ _ h =>
    rw [h]
    exact .inl (filesNothing_submissions (fewer_insert hid rfl rfl) rfl rfl)
  | @answered _ sid _ _ p hpending hop hp h =>
    have hensured := fewer_ensure hid sid
    rw [h]
    refine .inl (filesNothing_submissions (hensured.trans ?_) rfl rfl)
    exact fewer_set (fun sid p hp => (hensured sid p hp).1) hp rfl fun _ _ hi => hi
  | answerRefused _ h =>
    rw [h]
    exact .inl (filesNothing_submissions (fewer_ensure hid _) rfl rfl)
  | cancelled _ _ h | cancelRefused _ _ h =>
    rw [h]
    exact .inl (filesNothing (fewer_clear hid) (advanced_abortAll _ _) fun _ h => h)
  | unresolved hqueue _ h =>
    rw [h]
    refine .inl (filesNothing (fewer_refl hid) (advanced_refl _) ?_)
    exact fun entry hentry => by rw [hqueue]; exact List.mem_cons_of_mem _ hentry
  | resolved hqueue hp hi _ _ h =>
    rw [h]
    refine .inl (filesNothing (fewer_set hid hp rfl ?_) (advanced_refl _) ?_)
    · exact fun key i hi => (Dict.lookup_erase_eq_some.mp hi).2
    · exact fun entry hentry => by rw [hqueue]; exact List.mem_cons_of_mem _ hentry
  | resolutionFailed err hqueue hp hi _ h =>
    rw [h]
    refine .inl (filesNothing (fewer_set hid hp rfl ?_) (advanced_abortAll _ _) ?_)
    · intro key i hi
      cases hi
    · exact fun entry hentry => by rw [hqueue]; exact List.mem_cons_of_mem _ hentry
  | unrouted _ _ h | passed _ _ h =>
    rw [h]
    exact .inl (filesNothing_settle (filesNothing_submissions (fewer_refl hid) rfl rfl) _)
  | contentFailed _ _ hp _ h | declineRefused _ _ hp _ h =>
    rw [h]
    exact .inl (filesNothing_submissions (fewer_set hid hp rfl fun _ _ hi => hi) rfl rfl)
  | finished _ hp h =>
    rw [h]
    refine .inl (filesNothing_settle ?_ _)
    refine filesNothing (fewer_set hid hp rfl ?_) (advanced_abortAll _ _) fun _ h => h
    intro key i hi
    cases hi
  | collected h =>
    rw [h]
    exact .inl (filesNothing_submissions (fewer_retain hid _) rfl rfl)
  | responded ht hstate h =>
    rw [h]
    exact .inl (filesNothing (fewer_refl hid) (advanced_modify ht (by rw [hstate]; rfl) _)
      fun _ h => h)
  | @sent n response t ht hstate h =>
    rw [h]
    refine .inl ⟨fewer_refl hid,
      advanced_modify ht (by rw [hstate]; rfl) _, fun m message hmessage => ?_⟩
    rcases List.mem_append.mp hmessage with hqueued | hnew
    · exact .queued hqueued
    · cases List.mem_singleton.mp hnew
      exact .task ht (by rw [hstate]; rfl) rfl rfl

/-- A step that files no request under a key in use keeps the invariant. -/
theorem integrity_step {codex : Codex} {r r' : Running} {l : Label}
    (hd : Integrity r.actor.desk) (hfree : KeyIsFree codex r l r')
    (hstep : r.step codex l = some r') : Integrity r'.actor.desk := by
  rcases step_files hd.submissionId hstep with
    hnothing | ⟨event, request, p, hl, hroute, hask, hp, hdesk⟩
  · exact integrity_filesNothing hd hnothing
  · rw [hdesk]
    exact integrity_request hd hp (hfree _ _ hl hroute hask (by
      rw [show r.actor.submissions = r.actor.desk.submissions from rfl, hp]; rfl))

/-! ## Responses -/

/-- A permission response that resolves an interaction resolves the one of the
task that sent it, and an op accepted while it is handled is the op of that
task's own request for the client's outcome. -/
def ResponseIntact (r : Running) (l : Label) (r' : Running) : Prop :=
  l = .resolution → ∀ n message rest, r.actor.world.resolutions = (n, message) :: rest →
    (∀ i, r.actor.desk.interaction message.submissionId message.requestKey = some i →
      i.task = n ∧ ∃ t, r.actor.world.tasks[n]? = some t ∧ i.request = t.request.pendingRequest) ∧
    ∀ op id, r'.actor.world.accepted = r.actor.world.accepted ++ [(op, id)] →
      ∃ t response, r.actor.world.tasks[n]? = some t ∧ message.response = .ok response ∧
        op = t.request.pendingRequest.op response.outcome

/-- While a response is handled one op is accepted at most, and it is the op of the
interaction filed there. -/
theorem resolved_ops {codex : Codex} {r r' : Running} (hstep : r.step codex .resolution = some r')
    {n : TaskId} {message : PermissionRequestResolved}
    {rest : List (TaskId × PermissionRequestResolved)}
    (hqueue : r.actor.world.resolutions = (n, message) :: rest) :
    ∃ ops, r'.actor.world.accepted = r.actor.world.accepted ++ ops ∧ ops.length ≤ 1 ∧
      ∀ o ∈ ops, ∃ i response,
        r.actor.desk.interaction message.submissionId message.requestKey = some i ∧
          message.response = .ok response ∧ o.1 = i.request.op response.outcome := by
  have hnone : r'.actor.world.accepted = r.actor.world.accepted →
      ∃ ops, r'.actor.world.accepted = r.actor.world.accepted ++ ops ∧ ops.length ≤ 1 ∧
        ∀ o ∈ ops, ∃ i response,
          r.actor.desk.interaction message.submissionId message.requestKey = some i ∧
            message.response = .ok response ∧ o.1 = i.request.op response.outcome := fun h =>
    ⟨[], by rw [h, List.append_nil], Nat.zero_le 1, fun _ ho => absurd ho List.not_mem_nil⟩
  cases step_effect hstep with
  | idle hl _ => rcases hl with hl | hl | ⟨_, hl⟩ <;> cases hl
  | unresolved _ _ h => exact hnone (congrArg Desk.accepted h)
  | resolutionFailed _ _ _ _ _ h => exact hnone (congrArg Desk.accepted h)
  | @resolved m message' rest' p i response id' hqueue' hp hi hresponse hsubmit h =>
    rw [show r.actor.desk.resolutions = _ from hqueue] at hqueue'
    cases hqueue'
    have hop : r'.actor.world.accepted = r.actor.world.accepted ++ [(i.request.op _, id')] :=
      congrArg Desk.accepted h
    refine ⟨_, hop, Nat.le_refl 1, fun o ho => ?_⟩
    cases List.mem_singleton.mp ho
    exact ⟨i, response, Option.bind_eq_some_iff.mpr ⟨p, hp, hi⟩, hresponse, rfl⟩

/-- An op accepted while a response is handled is the op of the interaction filed there. -/
theorem resolved_op {codex : Codex} {r r' : Running} (hstep : r.step codex .resolution = some r')
    {n : TaskId} {message : PermissionRequestResolved}
    {rest : List (TaskId × PermissionRequestResolved)}
    (hqueue : r.actor.world.resolutions = (n, message) :: rest) {op : Op} {id : String}
    (haccepted : r'.actor.world.accepted = r.actor.world.accepted ++ [(op, id)]) :
    ∃ i response, r.actor.desk.interaction message.submissionId message.requestKey = some i ∧
      message.response = .ok response ∧ op = i.request.op response.outcome := by
  obtain ⟨ops, hops, _, hown⟩ := resolved_ops hstep hqueue
  rw [haccepted] at hops
  exact hown (op, id) (by rw [← List.append_cancel_left hops]; exact List.mem_singleton_self _)

/-- **Every response step of an actor that meets the invariant is intact.** -/
theorem responseIntact_step {codex : Codex} {r r' : Running} {l : Label}
    (hd : Integrity r.actor.desk) (hstep : r.step codex l = some r') : ResponseIntact r l r' := by
  rintro rfl n message rest hqueue
  have hown : ∀ i, r.actor.desk.interaction message.submissionId message.requestKey = some i →
      i.task = n ∧ ∃ t, r.actor.world.tasks[n]? = some t ∧ i.request = t.request.pendingRequest := by
    intro i hi
    have hreport : MayReport r.actor.desk n message.submissionId message.requestKey :=
      .queued (by rw [show r.actor.desk.resolutions = _ from hqueue]; exact List.mem_cons_self ..)
    have htask := hd.owner n _ _ i hreport hi
    obtain ⟨t, ht, hrequest⟩ := hd.filed _ _ i hi
    exact ⟨htask, t, by rw [← htask]; exact ht, hrequest.symm⟩
  refine ⟨hown, fun op id haccepted => ?_⟩
  obtain ⟨i, response, hi, hresponse, rfl⟩ := resolved_op hstep hqueue haccepted
  obtain ⟨_, t, ht, hrequest⟩ := hown i hi
  exact ⟨t, response, ht, hresponse, by rw [hrequest]⟩

/-- **Responses.** On every run of an actor that files no request under a key
whose earlier response is on its way, every response answers its own request. -/
theorem responses_intact (codex : Codex) (config : Config) (models : ModelsManager)
    (labels : List Label)
    (hfree : Along (Running.step codex) (KeyIsFree codex) (.start config models) labels) :
    Along (Running.step codex) ResponseIntact (.start config models) labels := by
  refine along_of_invariant (I := fun r => Integrity r.actor.desk) ?_ labels
    (integrity_start config models) hfree
  intro r l r' hd hC hstep
  exact ⟨integrity_step hd hC hstep, responseIntact_step hd hstep⟩

/-! ## Concrete runs -/

theorem nothingOnItsWay_of_done {d : Desk} (hqueue : d.resolutions = [])
    (htasks : ∀ t ∈ d.tasks, t.state.pending = false) (sid key : String) :
    NothingOnItsWay d sid key where
  waiting n t ht _ _ hstate := by
    have hdone := htasks t (List.mem_of_getElem? ht)
    rw [hstate] at hdone
    cases hdone
  responded n t response ht _ _ hstate := by
    have hdone := htasks t (List.mem_of_getElem? ht)
    rw [hstate] at hdone
    cases hdone
  queued entry hentry := by
    rw [hqueue] at hentry
    cases hentry

/-- No response is under way when an event is handled. -/
def allHeard (r : Running) : Label → Bool
  | .event _ =>
    r.actor.world.resolutions.isEmpty && r.actor.world.tasks.all fun t => !t.state.pending
  | _ => true

/-- The interaction a response resolves is the one of its task. -/
def ownTask (r : Running) : Label → Bool
  | .resolution =>
    match r.actor.world.resolutions with
    | (n, message) :: _ =>
      (r.actor.desk.interaction message.submissionId message.requestKey).all (·.task = n)
    | [] => true
  | _ => true

theorem responses_intact_oneAfterTheOther :
    Along (Running.step Codex.sample) ResponseIntact (.start Config.sample ModelsManager.sample)
        oneAfterTheOther ∧
      (exec (Running.step Codex.sample) (.start Config.sample ModelsManager.sample)
        oneAfterTheOther).map (fun r => r.actor.world.accepted.map fun o => o.1.approvalTarget) =
          some [none, some (.exec "first"), some (.exec "second")] := by
  refine ⟨responses_intact _ _ _ _ ?_, by rfl⟩
  have hheard : Along (Running.step Codex.sample) (fun r l _ => allHeard r l = true)
      (.start Config.sample ModelsManager.sample) oneAfterTheOther := by decide +kernel
  refine along_mono (fun r l r' _ h => ?_) hheard
  rintro event request rfl _ _ _
  obtain ⟨hqueue, htasks⟩ := Bool.and_eq_true_iff.mp h
  refine nothingOnItsWay_of_done (List.isEmpty_iff.mp hqueue) (fun t ht => ?_) _ _
  exact Bool.not_eq_true' _ |>.mp (List.all_eq_true.mp htasks t ht)

/-- The second approval is asked for just as the answer to the first one is on
its way: the queue was found empty, the answer is queued, the event is handled. -/
def crossing : List Label :=
  firstApproval ++
    [.noResolution, .respond 0 (.ok ⟨.selected "approved"⟩), .send 0,
     .event (.sampleApproval "second"), .collect, .resolution]

/-- **The answer to one approval approves the next one.** -/
theorem response_crosses :
    (exec (Running.step Codex.sample) (.start Config.sample ModelsManager.sample) crossing).map
        (fun r => r.actor.world.accepted.map (·.1)) =
      some [.userInput [.text "go"], .execApproval "second" (some "turn") .approved] ∧
    ¬ Along (Running.step Codex.sample) ResponseIntact
        (.start Config.sample ModelsManager.sample) crossing := by
  refine ⟨by rfl, fun h => ?_⟩
  have hown : Along (Running.step Codex.sample) (fun r l _ => ownTask r l = true)
      (.start Config.sample ModelsManager.sample) crossing := by
    refine along_mono (fun r l r' _ hintact => ?_) h
    unfold ownTask
    split
    next =>
      split
      next n message rest hqueue =>
        rw [Option.all_eq_true]
        intro i hi
        exact decide_eq_true ((hintact rfl n message rest hqueue).1 i hi).1
      next => rfl
    next => rfl
  exact absurd hown (by decide +kernel)

end CodexAcp.Thread
