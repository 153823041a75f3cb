import Arboretum.Proofs.SessionSteps
import Mathlib.Data.List.Nodup

/-!
# The queues at the versions

A cell of the cache of versions says which calls wait at it, the first of them being the one that
resolves the version. The invariant ties the cell to where those calls stand.

* `VersionCell.Fits`: the cell of a release agrees with the calls for its version. While the version
  is not known, the queue holds exactly the calls that are open, by age, and only the first of them
  resolves; once it is known, there is no queue, and every call that has succeeded got this text.
  One lemma for each thing that can happen to a call: `known`, `join`, `hold`, `succeed`, `leave`.
* `Session.Orderly`: every cell of a session fits. `Session.Orderly.step`: an event leaves it so
  (`Session.Advances`), keeps every known text, and makes one known by a success only.
-/

namespace Arboretum

/-! ## Cells -/

namespace Phase

/-- Neither has ended nor was given up. -/
def isOpen : Phase → Bool
  | .queued | .loading _ | .fetching => true
  | _ => false

/-- Of a call for a version: its resolution is in progress. -/
def isResolving : Phase → Bool
  | .loading _ | .fetching => true
  | _ => false

theorem isOpen_of_isResolving {phase : Phase} (h : phase.isResolving = true) :
    phase.isOpen = true := by
  cases phase with
  | loading acquisition => rfl
  | fetching => rfl
  | _ => cases h

end Phase

/-- **A cell that agrees with the calls at it**, given by where each of them stands. -/
structure VersionCell.Fits (stands : Nat → Phase → Prop) (cell : VersionCell) : Prop where
  dissolved : ∀ text, cell.value = some text → cell.queue = []
  sorted : cell.queue.Pairwise (· < ·)
  waiting : ∀ k, k ∈ cell.queue → ∃ phase, stands k phase ∧ phase.isOpen = true
  queued : ∀ k phase, stands k phase → phase.isOpen = true → cell.value = none → k ∈ cell.queue
  first : ∀ k phase, stands k phase → phase.isResolving = true →
    cell.value = none ∧ cell.queue.head? = some k
  kept : ∀ k text, stands k (.finished (.version text)) → cell.value = some text

namespace VersionCell.Fits

variable {stands moved : Nat → Phase → Prop} {cell : VersionCell} {k : Nat} {phase : Phase}

theorem congr (h : cell.Fits stands) (hsame : ∀ j p, moved j p ↔ stands j p) :
    cell.Fits moved := by
  have heq : moved = stands := by
    funext j p
    exact propext (hsame j p)
  rw [heq]
  exact h

theorem nodup (h : cell.Fits stands) : cell.queue.Nodup :=
  h.sorted.imp fun hlt => Nat.ne_of_lt hlt

/-- A call at a known version is there, or takes the text. -/
theorem known (h : cell.Fits stands) {text : String} (hvalue : cell.value = some text)
    (hphase : phase.isResolving = false)
    (htext : ∀ other, phase = .finished (.version other) → other = text)
    (hmoved : ∀ j p, moved j p ↔ if j = k then p = phase else stands j p) :
    cell.Fits moved where
  dissolved := h.dissolved
  sorted := h.sorted
  waiting := by
    intro j hj
    rw [h.dissolved text hvalue] at hj
    cases hj
  queued := by
    intro j p _ _ hnone
    rw [hvalue] at hnone
    cases hnone
  first := by
    intro j p hj hp
    rw [hmoved] at hj
    split at hj
    · rw [hj, hphase] at hp
      cases hp
    · exact h.first j p hj hp
  kept := by
    intro j other hj
    rw [hmoved] at hj
    split at hj
    · rw [htext other hj.symm]
      exact hvalue
    · exact h.kept j other hj

/-- A new call joins the queue. -/
theorem join (h : cell.Fits stands) (hvalue : cell.value = none)
    (hnew : ∀ j p, stands j p → j < k)
    (hmoved : ∀ j p, moved j p ↔ if j = k then p = .queued else stands j p) :
    VersionCell.Fits moved ⟨none, cell.queue ++ [k]⟩ where
  dissolved := fun text htext => by cases htext
  sorted := by
    refine List.pairwise_append.mpr ⟨h.sorted, List.pairwise_singleton _ k, ?_⟩
    intro j hj i hi
    obtain ⟨p, hp, -⟩ := h.waiting j hj
    exact List.mem_singleton.mp hi ▸ hnew j p hp
  waiting := by
    intro j hj
    simp only [hmoved]
    by_cases hjk : j = k
    · exact ⟨.queued, by rw [if_pos hjk], rfl⟩
    · simp only [if_neg hjk]
      exact h.waiting j ((List.mem_append.mp hj).resolve_right
        fun hin => hjk (List.mem_singleton.mp hin))
  queued := by
    intro j p hj hp _
    rw [hmoved] at hj
    split at hj
    · rename_i hjk
      exact List.mem_append_right _ (List.mem_singleton.mpr hjk)
    · exact List.mem_append_left _ (h.queued j p hj hp hvalue)
  first := by
    intro j p hj hp
    rw [hmoved] at hj
    split at hj
    · rw [hj] at hp
      cases hp
    · rw [List.head?_append, (h.first j p hj hp).2]
      exact ⟨rfl, rfl⟩
  kept := by
    intro j text hj
    rw [hmoved] at hj
    split at hj
    · cases hj
    · rw [h.kept j text hj] at hvalue
      cases hvalue

/-- The first of the queue waits for an engine or for metadata. -/
theorem hold (h : cell.Fits stands) (hvalue : cell.value = none)
    (hhead : cell.queue.head? = some k) (hphase : phase.isResolving = true)
    (hmoved : ∀ j p, moved j p ↔ if j = k then p = phase else stands j p) :
    cell.Fits moved where
  dissolved := h.dissolved
  sorted := h.sorted
  waiting := by
    intro j hj
    simp only [hmoved]
    by_cases hjk : j = k
    · exact ⟨phase, by rw [if_pos hjk], Phase.isOpen_of_isResolving hphase⟩
    · simp only [if_neg hjk]
      exact h.waiting j hj
  queued := by
    intro j p hj hp hnone
    rw [hmoved] at hj
    split at hj
    · rename_i hjk
      exact hjk ▸ List.mem_of_mem_head? hhead
    · exact h.queued j p hj hp hnone
  first := by
    intro j p hj hp
    rw [hmoved] at hj
    split at hj
    · rename_i hjk
      exact ⟨hvalue, hjk ▸ hhead⟩
    · exact h.first j p hj hp
  kept := by
    intro j text hj
    rw [hmoved] at hj
    split at hj
    · rw [← hj] at hphase
      cases hphase
    · exact h.kept j text hj

/-- The first of the queue finds the text. -/
theorem succeed (h : cell.Fits stands) (hvalue : cell.value = none)
    (hhead : cell.queue.head? = some k) {text : String}
    (hmoved : ∀ j p, moved j p ↔ if j = k then p = .finished (.version text) else stands j p) :
    VersionCell.Fits moved ⟨some text, []⟩ where
  dissolved := fun _ _ => rfl
  sorted := List.Pairwise.nil
  waiting := fun j hj => absurd hj List.not_mem_nil
  queued := fun j p _ _ hnone => by cases hnone
  first := by
    intro j p hj hp
    rw [hmoved] at hj
    split at hj
    · rw [hj] at hp
      cases hp
    · -- Two calls that resolve would both be first.
      rename_i hjk
      have hfirst := (h.first j p hj hp).2
      rw [hhead] at hfirst
      exact absurd (Option.some.inj hfirst).symm hjk
  kept := by
    intro j other hj
    rw [hmoved] at hj
    split at hj
    · cases hj
      rfl
    · rw [h.kept j other hj] at hvalue
      cases hvalue

/-- A call ends without a text or is given up: it leaves the queue, if it is there. -/
theorem leave (h : cell.Fits stands) (hopen : phase.isOpen = false)
    (htext : ∀ text, phase ≠ .finished (.version text))
    (hmoved : ∀ j p, moved j p ↔ if j = k then p = phase else stands j p) :
    VersionCell.Fits moved { cell with queue := cell.queue.erase k } where
  dissolved := by
    intro text hvalue
    rw [h.dissolved text hvalue]
    rfl
  sorted := h.sorted.erase k
  waiting := by
    intro j hj
    obtain ⟨hjk, hj⟩ := h.nodup.mem_erase_iff.mp hj
    simp only [hmoved, if_neg hjk]
    exact h.waiting j hj
  queued := by
    intro j p hj hp hnone
    rw [hmoved] at hj
    split at hj
    · rw [hj, hopen] at hp
      cases hp
    · rename_i hjk
      exact h.nodup.mem_erase_iff.mpr ⟨hjk, h.queued j p hj hp hnone⟩
  first := by
    intro j p hj hp
    rw [hmoved] at hj
    split at hj
    · rw [hj] at hp
      rw [Phase.isOpen_of_isResolving hp] at hopen
      cases hopen
    · rename_i hjk
      obtain ⟨hvalue, hhead⟩ := h.first j p hj hp
      refine ⟨hvalue, ?_⟩
      -- Another call is first, so what leaves stands behind it.
      obtain ⟨rest, hqueue⟩ := List.head?_eq_some_iff.mp hhead
      have herase : (j :: rest).erase k = j :: rest.erase k :=
        List.erase_cons_tail (by simpa using hjk)
      rw [hqueue, herase]
      rfl
  kept := by
    intro j text hj
    rw [hmoved] at hj
    split at hj
    · exact absurd hj.symm (htext text)
    · exact h.kept j text hj

/-- A call that is not in the queue ends without a text or is given up. -/
theorem idle (h : cell.Fits stands) (hopen : phase.isOpen = false)
    (htext : ∀ text, phase ≠ .finished (.version text)) (hnot : k ∉ cell.queue)
    (hmoved : ∀ j p, moved j p ↔ if j = k then p = phase else stands j p) : cell.Fits moved := by
  have hleft := h.leave hopen htext hmoved
  rwa [List.erase_of_not_mem hnot] at hleft

/-- The queue at an unknown version begins with the oldest open call. -/
theorem head_of_oldest (h : cell.Fits stands) (hvalue : cell.value = none)
    (hk : stands k phase) (hopen : phase.isOpen = true)
    (hold : ∀ j p, stands j p → p.isOpen = true → k ≤ j) : cell.queue.head? = some k := by
  have hmem := h.queued k phase hk hopen hvalue
  obtain ⟨hwaiting, hsorted⟩ := And.intro h.waiting h.sorted
  cases hqueue : cell.queue with
  | nil =>
    rw [hqueue] at hmem
    cases hmem
  | cons j rest =>
    rw [hqueue] at hmem hwaiting hsorted
    obtain ⟨p, hp, hpopen⟩ := hwaiting j List.mem_cons_self
    rcases List.mem_cons.mp hmem with rfl | hrest
    · rfl
    · exact absurd ((List.pairwise_cons.mp hsorted).1 k hrest)
        (Nat.not_lt.mpr (hold j p hp hpopen))

/-- No open call is older than the first of the queue at an unknown version. -/
theorem oldest_of_head (h : cell.Fits stands) (hvalue : cell.value = none) {j : Nat}
    (hhead : cell.queue.head? = some k) (hj : stands j phase) (hopen : phase.isOpen = true) :
    k ≤ j := by
  have hmem := h.queued j phase hj hopen hvalue
  have hsorted := h.sorted
  cases hqueue : cell.queue with
  | nil =>
    rw [hqueue] at hmem
    cases hmem
  | cons first rest =>
    rw [hqueue] at hhead hmem hsorted
    cases hhead
    rcases List.mem_cons.mp hmem with rfl | hrest
    · exact Nat.le_refl _
    · exact Nat.le_of_lt ((List.pairwise_cons.mp hsorted).1 j hrest)

/-- Where no call is open, the queue is empty. -/
theorem queue_eq_nil (h : cell.Fits stands)
    (hclosed : ∀ j p, stands j p → p.isOpen = false) : cell.queue = [] := by
  refine List.eq_nil_iff_forall_not_mem.mpr fun j hj => ?_
  obtain ⟨p, hp, hopen⟩ := h.waiting j hj
  rw [hclosed j p hp] at hopen
  cases hopen

end VersionCell.Fits

/-! ## The calls at a version -/

namespace Session

/-- A call for the version of a release stands in a phase. -/
def At (s : Session) (release : Release) (k : Nat) (phase : Phase) : Prop :=
  ∃ adapter, s.calls[k]? = some ⟨.version adapter release, phase⟩

variable {s t : Session} {release : Release} {k : Nat} {adapter : Adapter} {phase next : Phase}

theorem At.unique {other : Phase} (h : s.At release k phase) (hother : s.At release k other) :
    phase = other := by
  obtain ⟨a, ha⟩ := h
  obtain ⟨b, hb⟩ := hother
  rw [ha] at hb
  exact congrArg Call.phase (Option.some.inj hb)

theorem At.lt (h : s.At release k phase) : k < s.calls.length := by
  obtain ⟨a, ha⟩ := h
  exact (List.getElem?_eq_some_iff.mp ha).1

/-- A call for a version changes its phase. -/
theorem at_setPhase (hk : s.calls[k]? = some ⟨.version adapter release, phase⟩) (next : Phase)
    (j : Nat) (p : Phase) :
    (s.setPhase k next).At release j p ↔ if j = k then p = next else s.At release j p := by
  unfold At
  rw [getElem?_setPhase]
  split
  · rename_i hj
    subst hj
    rw [hk]
    constructor
    · rintro ⟨a, ha⟩
      exact (congrArg Call.phase (Option.some.inj ha)).symm
    · rintro rfl
      exact ⟨adapter, rfl⟩
  · rfl

/-- A call for anything else changes its phase, which does not count at the version. -/
theorem at_setPhase_of_ne {call : Call} (hk : s.calls[k]? = some call)
    (hne : ∀ adapter, call.request ≠ .version adapter release) (next : Phase)
    (j : Nat) (p : Phase) : (s.setPhase k next).At release j p ↔ s.At release j p := by
  unfold At
  rw [getElem?_setPhase]
  split
  · rename_i hj
    subst hj
    rw [hk]
    constructor
    · rintro ⟨a, ha⟩
      exact absurd (congrArg Call.request (Option.some.inj ha)) (hne a)
    · rintro ⟨a, ha⟩
      exact absurd (congrArg Call.request (Option.some.inj ha)) (hne a)
  · rfl

theorem value_joinQueue (s : Session) (k : Nat) (release other : Release) :
    ((s.joinQueue k release).versions.get other).value = (s.versions.get other).value := by
  cases hvalue : (s.versions.get release).value with
  | some text => rw [joinQueue_of_known hvalue]
  | none =>
    rw [joinQueue_of_unknown hvalue, VersionCache.get_put]
    split
    · rename_i heq
      rw [← heq, hvalue]
    · rfl

theorem at_enlist (s : Session) (adapter : Adapter) (release : Release) (j : Nat) (p : Phase) :
    (s.enlist (.version adapter release)).At release j p ↔
      if j = s.calls.length then p = .queued else s.At release j p := by
  unfold At
  rw [getElem?_enlist]
  split
  · constructor
    · rintro ⟨a, ha⟩
      exact (congrArg Call.phase (Option.some.inj ha)).symm
    · rintro rfl
      exact ⟨adapter, rfl⟩
  · rfl

theorem at_enlist_of_ne (s : Session) {request : Request}
    (hne : ∀ adapter, request ≠ .version adapter release) (j : Nat) (p : Phase) :
    (s.enlist request).At release j p ↔ s.At release j p := by
  unfold At
  rw [getElem?_enlist]
  split
  · rename_i hj
    rw [List.getElem?_eq_none (Nat.le_of_eq hj.symm)]
    constructor
    · rintro ⟨a, ha⟩
      exact absurd (congrArg Call.request (Option.some.inj ha)) (hne a)
    · rintro ⟨a, ha⟩
      cases ha
  · rfl

/-! ## Sessions in order -/

/-- **The cells of a session agree with its calls.** -/
def Orderly (s : Session) : Prop := ∀ release, (s.versions.get release).Fits (s.At release)

/-- A session in order after `s`. What was known is known, and what becomes known is what a call
succeeds with. -/
structure Advances (s t : Session) : Prop where
  orderly : t.Orderly
  kept : ∀ release text, (s.versions.get release).value = some text →
    (t.versions.get release).value = some text
  found : ∀ release text, (s.versions.get release).value = none →
    (t.versions.get release).value = some text → ∃ k, t.At release k (.finished (.version text))

namespace Advances

/-- A session in order whose cells have not changed has advanced. -/
theorem of_versions (hversions : t.versions = s.versions) (h : t.Orderly) : s.Advances t := by
  refine ⟨h, ?_, ?_⟩
  · intro release text hvalue
    rwa [hversions]
  · intro release text hnone hvalue
    rw [hversions, hnone] at hvalue
    cases hvalue

/-- Only the cells and the calls count. -/
theorem congr {u : Session} (h : s.Advances t) (hversions : u.versions = t.versions)
    (hcalls : u.calls = t.calls) : s.Advances u := by
  have hat : u.At = t.At := by
    unfold At
    rw [hcalls]
  refine ⟨?_, ?_, ?_⟩
  · intro release
    rw [hversions, hat]
    exact h.orderly release
  · rw [hversions]
    exact h.kept
  · rw [hversions, hat]
    exact h.found

/-- What has the same known texts may stand in front. -/
theorem of_values {u : Session}
    (hvalues : ∀ release, (u.versions.get release).value = (s.versions.get release).value)
    (h : u.Advances t) : s.Advances t := by
  refine ⟨h.orderly, ?_, ?_⟩
  · intro release text hvalue
    exact h.kept release text ((hvalues release).trans hvalue)
  · intro release text hnone
    exact h.found release text ((hvalues release).trans hnone)

end Advances

namespace Orderly

theorem setPhase (h : s.Orderly) (hk : s.calls[k]? = some ⟨.version adapter release, phase⟩)
    (hcell : (s.versions.get release).Fits ((s.setPhase k next).At release)) :
    (s.setPhase k next).Orderly := by
  intro other
  by_cases hother : release = other
  · subst hother
    exact hcell
  · refine (h other).congr (at_setPhase_of_ne hk (fun a heq => hother ?_) next)
    cases heq
    rfl

theorem setPhase_of_not_version (h : s.Orderly) {call : Call} (hk : s.calls[k]? = some call)
    (hversion : call.request.isVersion = false) : (s.setPhase k next).Orderly := by
  refine fun other => (h other).congr (at_setPhase_of_ne hk (fun a heq => ?_) next)
  rw [heq] at hversion
  cases hversion

/-- A cell changes together with a call at it. -/
theorem put (h : s.Orderly) (hk : s.calls[k]? = some ⟨.version adapter release, phase⟩)
    {cell : VersionCell} (hcell : cell.Fits ((s.setPhase k next).At release)) :
    Orderly { s.setPhase k next with versions := s.versions.put release cell } := by
  intro other
  by_cases hother : release = other
  · subst hother
    simp only [VersionCache.get_put_self]
    exact hcell
  · simp only [VersionCache.get_put_of_ne s.versions hother]
    refine (h other).congr (at_setPhase_of_ne hk (fun a heq => hother ?_) next)
    cases heq
    rfl

/-- A call leaves the queue, if it is there. -/
theorem leave (h : s.Orderly) (hk : s.calls[k]? = some ⟨.version adapter release, phase⟩)
    (hopen : next.isOpen = false) (htext : ∀ text, next ≠ .finished (.version text)) :
    s.Advances ((s.setPhase k next).leaveQueue k release) := by
  have hvalue : ∀ other, (((s.setPhase k next).leaveQueue k release).versions.get other).value =
      (s.versions.get other).value := by
    intro other
    simp only [leaveQueue, VersionCache.get_put]
    split
    · rename_i heq
      subst heq
      rfl
    · rfl
  refine ⟨h.put hk ((h release).leave hopen htext (at_setPhase hk next)), ?_, ?_⟩
  · intro other text hother
    rwa [hvalue other]
  · intro other text hnone hother
    rw [hvalue other, hnone] at hother
    cases hother

/-- The first of the queue succeeds. -/
theorem succeed (h : s.Orderly) (hk : s.calls[k]? = some ⟨.version adapter release, phase⟩)
    (hvalue : (s.versions.get release).value = none)
    (hhead : (s.versions.get release).queue.head? = some k) (text : String) :
    s.Advances { s.finish k (.version text) with
      versions := s.versions.put release { value := some text } } := by
  refine ⟨h.put hk ((h release).succeed hvalue hhead (at_setPhase hk _)), ?_, ?_⟩
  · intro other old hold
    by_cases hother : release = other
    · subst hother
      rw [hvalue] at hold
      cases hold
    · simp only [VersionCache.get_put_of_ne s.versions hother]
      exact hold
  · intro other new hnone hnew
    by_cases hother : release = other
    · subst hother
      simp only [VersionCache.get_put_self] at hnew
      cases hnew
      exact ⟨k, (at_setPhase hk _ k _).mpr (by rw [if_pos rfl])⟩
    · simp only [VersionCache.get_put_of_ne s.versions hother] at hnew
      rw [hnone] at hnew
      cases hnew

/-- The first of the queue comes to a verdict. -/
theorem conclude (h : s.Orderly) (hk : s.calls[k]? = some ⟨.version adapter release, phase⟩)
    (hvalue : (s.versions.get release).value = none)
    (hhead : (s.versions.get release).queue.head? = some k) (verdict : Verdict) :
    s.Advances (s.conclude k (.version adapter release) verdict) := by
  have hcell := h release
  cases verdict with
  | waits acquisition =>
    exact .of_versions rfl (h.setPhase hk (hcell.hold hvalue hhead rfl (at_setPhase hk _)))
  | fetches service =>
    exact .of_versions rfl (h.setPhase hk (hcell.hold hvalue hhead rfl (at_setPhase hk _)))
  | ends reply =>
    cases reply with
    | version text => exact (h.succeed hk hvalue hhead text).congr rfl rfl
    | handle loaded => exact (h.leave hk rfl (by simp [Verdict.phase])).congr rfl rfl
    | tree root => exact (h.leave hk rfl (by simp [Verdict.phase])).congr rfl rfl
    | failure e => exact (h.leave hk rfl (by simp [Verdict.phase])).congr rfl rfl

/-- A load or a parse comes to a verdict. -/
theorem conclude_of_not_version (h : s.Orderly) {call : Call} (hk : s.calls[k]? = some call)
    (hversion : call.request.isVersion = false) (verdict : Verdict) :
    s.Advances (s.conclude k call.request verdict) := by
  have hversions : (s.conclude k call.request verdict).versions = s.versions := by
    obtain ⟨request, phase⟩ := call
    cases request with
    | load release => rfl
    | parse adapter code user release => rfl
    | version adapter release => cases hversion
  have hset : s.Advances (s.setPhase k verdict.phase) :=
    .of_versions rfl (h.setPhase_of_not_version hk hversion)
  exact hset.congr hversions rfl

/-- A call at a version takes its turn. -/
theorem turnsInto (h : s.Orderly) (hk : s.calls[k]? = some ⟨.version adapter release, .queued⟩)
    (hturn : s.TurnsInto k adapter release t) : s.Advances t := by
  cases hturn with
  | known value =>
    refine .of_versions rfl (h.setPhase hk ((h release).known value rfl ?_ (at_setPhase hk _)))
    intro other heq
    cases heq
    rfl
  | waits value =>
    refine .of_versions rfl (h.setPhase hk ((h release).congr fun j p => ?_))
    rw [at_setPhase hk]
    split
    · rename_i hj
      subst hj
      exact ⟨fun hp => ⟨adapter, hp ▸ hk⟩, fun hp => hp.unique ⟨adapter, hk⟩⟩
    · rfl
  | aside value head side => exact h.conclude hk value head _
  | loads value head side =>
    have hentered : (s.enter release).Orderly := h
    exact .of_values (u := s.enter release) (fun _ => rfl) (hentered.conclude hk value head _)

/-- A new call for a version joins the queue. -/
theorem joinQueue (h : s.Orderly) (adapter : Adapter) (release : Release) :
    ((s.enlist (.version adapter release)).joinQueue s.calls.length release).Orderly := by
  have hother : ∀ other, release ≠ other → (s.versions.get other).Fits
      ((s.enlist (.version adapter release)).At other) := by
    intro other hne
    refine (h other).congr (s.at_enlist_of_ne fun a heq => hne ?_)
    cases heq
    rfl
  cases hvalue : (s.versions.get release).value with
  | some text =>
    rw [joinQueue_of_known (s := s.enlist _) hvalue]
    intro other
    by_cases hne : release = other
    · subst hne
      exact (h release).known hvalue rfl (by simp) (s.at_enlist adapter release)
    · exact hother other hne
  | none =>
    rw [joinQueue_of_unknown (s := s.enlist _) hvalue]
    intro other
    by_cases hne : release = other
    · subst hne
      simp only [VersionCache.get_put_self]
      exact (h release).join hvalue (fun j p hj => hj.lt) (s.at_enlist adapter release)
    · simp only [VersionCache.get_put_of_ne _ hne]
      exact hother other hne

/-- A call that is refused is not seen at any version. -/
theorem refused (h : s.Orderly) (request : Request) (e : Error) :
    ((s.enlist request).finish s.calls.length (.failure e)).Orderly := by
  have hnew : (s.enlist request).calls[s.calls.length]? = some ⟨request, .queued⟩ := by
    rw [getElem?_enlist, if_pos rfl]
  intro release
  by_cases hrequest : ∃ adapter, request = .version adapter release
  · obtain ⟨adapter, rfl⟩ := hrequest
    -- A queue holds tickets of calls that are there.
    have hnot : s.calls.length ∉ (s.versions.get release).queue := by
      intro hmem
      obtain ⟨p, hp, -⟩ := (h release).waiting _ hmem
      exact Nat.lt_irrefl _ hp.lt
    have hmoved : ∀ j p,
        ((s.enlist (.version adapter release)).finish s.calls.length (.failure e)).At release j p ↔
          if j = s.calls.length then p = .finished (.failure e) else s.At release j p := by
      intro j p
      rw [finish, at_setPhase hnew, at_enlist]
      split <;> rfl
    exact (h release).idle rfl (by simp) hnot hmoved
  · have hne : ∀ adapter, request ≠ .version adapter release :=
      fun adapter heq => hrequest ⟨adapter, heq⟩
    refine (h release).congr fun j p => ?_
    rw [finish, at_setPhase_of_ne hnew hne, s.at_enlist_of_ne hne]

theorem startsAs (h : s.Orderly) {request : Request} (hstart : s.StartsAs request t) :
    s.Advances t := by
  have hnew : (s.enlist request).calls[s.calls.length]? = some ⟨request, .queued⟩ := by
    rw [getElem?_enlist, if_pos rfl]
  cases hstart with
  | refused => exact .of_versions rfl (h.refused request _)
  | loads version =>
    have henlisted : (s.enlist request).Orderly := by
      refine fun release => (h release).congr (s.at_enlist_of_ne fun adapter heq => ?_)
      rw [heq] at version
      cases version
    have hentered : ((s.enlist request).enter request.release).Orderly := henlisted
    exact .of_values (u := (s.enlist request).enter request.release) (fun _ => rfl)
      (hentered.conclude_of_not_version hnew version _)
  | turns version turn =>
    subst version
    refine .of_values (value_joinQueue (s.enlist _) _ _) ((h.joinQueue _ _).turnsInto ?_ turn)
    rw [calls_joinQueue, hnew]

theorem resume (h : s.Orderly) (k : Nat) : s.Advances (s.resume k) := by
  unfold Session.resume
  split
  · exact .of_versions rfl h
  · rename_i call hk
    obtain ⟨request, phase⟩ := call
    split
    · rename_i adapter release hphase hrequest
      cases hphase
      cases hrequest
      exact h.turnsInto hk (s.turnsInto_versionTurn k adapter release)
    · rename_i acquisition hphase
      cases hphase
      rw [awaitEngine_eq]
      cases hversion : request.isVersion with
      | false => exact h.conclude_of_not_version hk hversion _
      | true =>
        cases request with
        | load release => cases hversion
        | parse adapter code user release => cases hversion
        | version adapter release =>
          obtain ⟨hvalue, hhead⟩ := (h release).first k _ ⟨adapter, hk⟩ rfl
          exact h.conclude hk hvalue hhead _
    · exact .of_versions rfl h

theorem cancel (h : s.Orderly) (k : Nat) : s.Advances (s.cancel k) := by
  unfold Session.cancel
  split
  · exact .of_versions rfl h
  · rename_i call hk
    obtain ⟨request, phase⟩ := call
    cases request with
    | load release =>
      have hset : (s.setPhase k .cancelled).Orderly := h.setPhase_of_not_version hk rfl
      cases phase <;> exact .of_versions rfl hset
    | parse adapter code user release =>
      have hset : (s.setPhase k .cancelled).Orderly := h.setPhase_of_not_version hk rfl
      cases phase <;> exact .of_versions rfl hset
    | version adapter release =>
      cases hopen : phase.isOpen with
      | true =>
        have hleft : s.Advances ((s.setPhase k .cancelled).leaveQueue k release) :=
          h.leave hk rfl (by simp)
        cases phase with
        | finished reply => cases hopen
        | cancelled => cases hopen
        | _ => exact hleft
      | false =>
        have hnot : k ∉ (s.versions.get release).queue := by
          intro hmem
          obtain ⟨p, hp, hpopen⟩ := (h release).waiting k hmem
          rw [hp.unique ⟨adapter, hk⟩, hopen] at hpopen
          cases hpopen
        have hset : (s.setPhase k .cancelled).Orderly :=
          h.setPhase hk ((h release).idle rfl (by simp) hnot (at_setPhase hk _))
        cases phase with
        | finished reply => exact .of_versions rfl hset
        | cancelled => exact .of_versions rfl hset
        | _ => cases hopen

theorem fetched (h : s.Orderly) (k : Nat) (answer : Except MetadataCause String) :
    s.Advances (s.fetched k answer) := by
  unfold Session.fetched
  split
  · rename_i adapter release hk
    obtain ⟨hvalue, hhead⟩ := (h release).first k _ ⟨adapter, hk⟩ rfl
    rw [finishVersion_eq s k adapter release]
    exact h.conclude hk hvalue hhead _
  · exact .of_versions rfl h

/-- **An event leaves a session in order**, with what is known. -/
theorem step (h : s.Orderly) (event : Event) : s.Advances (s.step event) := by
  cases event with
  | call request => exact h.startsAs (s.startsAs_start request)
  | cancel k => exact h.cancel k
  | resume k => exact h.resume k
  | lookUp release => exact .of_versions rfl h
  | invalidate release => exact .of_versions rfl h
  | acquired release acquisition ending => exact .of_versions rfl h
  | fetched k answer => exact h.fetched k answer

theorem run (h : s.Orderly) (events : List Event) : (s.run events).Orderly := by
  induction events using List.reverseRecOn with
  | nil => exact h
  | append_singleton events event ih =>
    rw [run_concat]
    exact (ih.step event).orderly

end Orderly

theorem orderly_new (package : String) : (new package).Orderly := by
  intro release
  refine ⟨fun _ _ => rfl, .nil, fun k hk => absurd hk List.not_mem_nil, ?_, ?_, ?_⟩
  · rintro k phase ⟨adapter, hk⟩
    cases hk
  · rintro k phase ⟨adapter, hk⟩
    cases hk
  · rintro k text ⟨adapter, hk⟩
    cases hk

end Session

end Arboretum
