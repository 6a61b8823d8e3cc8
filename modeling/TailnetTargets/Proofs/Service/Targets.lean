/-
  What visitors who ask for targets are answered.

  * `tree`: members which are asked together, as the daemon has them (`Daemon.source_eq_tree`);
  * `Slot`: the part of one member in a request, and `Slot.Occurs`: how it stands in a run;
  * `response_of_courses`: the answer by the courses of all members;
  * `exists_slots`: a request which has an outcome has a slot for each member;
  * `targets_answered`: who is answered with a failure, and what all others are answered.  In
    `uneven` there is somebody of each kind.
-/
import Mathlib.Data.List.Basic
import TailnetTargets.Daemon
import TailnetTargets.Proofs.Discovery.FanOut
import TailnetTargets.Proofs.Discovery.Member
import TailnetTargets.Proofs.Target.RoundTrip

namespace TailnetTargets

/-- Members which are asked together. -/
def tree (metered : Bool) (members : List Member) : Source :=
  .fanOut metered (members.map Member.source)

/-- The members which the daemon asks. -/
def Daemon.members (pollLimit : Duration) (origins : List Origin) : List Member :=
  origins.zipIdx.map fun entry =>
    ⟨entry.2, pollLimit, true, .interface (Daemon.interface entry.2 entry.1) true⟩

theorem Daemon.source_eq_tree (pollLimit : Duration) (origins : List Origin) :
    Daemon.source pollLimit origins = tree true (Daemon.members pollLimit origins) := by
  simp only [Daemon.source, tree, Daemon.members, List.map_map]
  rfl

/-! ## Answers -/

namespace Failure

theorem allStale_iff {causes : List Failure} : allStale causes ↔ ∀ f ∈ causes, f.isStale := by
  induction causes with
  | nil => simp [allStale]
  | cons f rest ih => simp [allStale, ih]

end Failure

namespace Service

theorem status_devicesResponse (s : Service) (devices : List Device) :
    (s.devicesResponse devices).status = 200 := rfl

/-- The answer by the courses of all members. -/
theorem response_of_courses (s : Service) {courses : List Course}
    (hplain : ∀ c ∈ courses, c.IsPlain) :
    ∃ response, s.targetsResponse (.merge (courses.map Course.outcome)) = .ok response ∧
      (response.status = 500 ↔ ∃ c ∈ courses, c.Fails) ∧
      (response.status ≠ 500 → response = s.devicesResponse (courses.flatMap Course.devices)) := by
  have hdevices : (courses.map Course.outcome).flatMap Outcome.devices =
      courses.flatMap Course.devices := by
    rw [List.flatMap_map]
    exact List.flatMap_congr fun c hc => Course.devices_outcome (hplain c hc)
  have hmem : ∀ f, f ∈ Outcome.failures (courses.map Course.outcome) ↔
      ∃ c ∈ courses, c.outcome.failure? = some f := by
    intro f
    simp [Outcome.failures]
  have hfails : (∃ c ∈ courses, c.Fails) ↔
      ∃ f ∈ Outcome.failures (courses.map Course.outcome), f.isStale = false := by
    constructor
    · rintro ⟨c, hc, hf⟩
      obtain ⟨f, hfail⟩ := Course.failure?_of_fails hf
      exact ⟨f, (hmem f).2 ⟨c, hc, hfail⟩, (Course.isStale_of_failure? (hplain c hc) hfail).2 hf⟩
    · rintro ⟨f, hf, hstale⟩
      obtain ⟨c, hc, hfail⟩ := (hmem f).1 hf
      exact ⟨c, hc, (Course.isStale_of_failure? (hplain c hc) hfail).1 hstale⟩
  rw [hfails, Outcome.merge, hdevices]
  cases hfailures : Outcome.failures (courses.map Course.outcome) with
  | nil => exact ⟨_, rfl, by simp [status_devicesResponse], fun _ => rfl⟩
  | cons f rest =>
    have hstale : (Failure.aggregate (courses.flatMap Course.devices) (f :: rest)).isStale ↔
        ∀ g ∈ f :: rest, g.isStale := by
      rw [Failure.isStale, List.isEmpty_cons, Bool.not_false, Bool.true_and,
        Failure.allStale_iff]
    by_cases hall : ∀ g ∈ f :: rest, g.isStale
    · refine ⟨_, rfl, ?_, fun _ => by rw [if_pos (hstale.2 hall)]; rfl⟩
      rw [if_pos (hstale.2 hall)]
      constructor
      · intro h
        cases h
      · rintro ⟨g, hg, hnot⟩
        rw [hall g hg] at hnot
        cases hnot
    · refine ⟨_, rfl, ?_, fun hne => ?_⟩
      · rw [if_neg fun h => hall (hstale.1 h)]
        refine ⟨fun _ => ?_, fun _ => rfl⟩
        by_contra hnone
        refine hall fun g hg => ?_
        by_contra hnot
        exact hnone ⟨g, hg, by simpa using hnot⟩
      · rw [if_neg fun h => hall (hstale.1 h)] at hne
        exact absurd rfl hne

end Service

/-! ## Slots -/

/-- The part of a member in a request: its task, what had happened when that read the cache, and how
    the call went on. -/
structure Slot where
  member : Member
  task : Nat
  read : List Label
  course : Course

/-- How a slot stands in a run in which its request was made after `requested`. -/
structure Slot.Occurs (slot : Slot) (w₀ : World) (requested labels : List Label) (request : Nat) :
    Prop where
  /-- the cache is read for the request, and in the run -/
  begun : requested <+: slot.read
  reads : slot.read ++ [.run slot.task] <+: labels
  /-- it is read by a task of the request -/
  task : ∃ scope, (w₀.after slot.read).tasks[slot.task]? =
    some { scope, parent := some request, phase := .ready slot.member.source }
  /-- what is found in the cache is what was committed last -/
  reading : ((w₀.after slot.read).caches slot.member.cache).read (w₀.after slot.read).clock =
    slot.course.reading
  kept : (w₀.commits slot.member.cache slot.read).getLast?.map Commit.devices = slot.course.kept
  /-- when that needs a refresh, the task asks the leaf, and `ended` is how the leaf ends -/
  asked : ∀ previous ended, slot.course = .refresh previous ended → ∃ mid rest,
    labels = slot.read ++ .run slot.task :: (mid ++ rest) ∧
      (w₀.after slot.read).EndsAt slot.task slot.member.leaf.source mid ended
  plain : slot.course.IsPlain
  outcome : (w₀.after labels).outcome? slot.task = some slot.course.outcome

namespace World

section
variable {w₀ : World}

/-- A task of a request which has an outcome has a slot. -/
theorem exists_slot (hw : w₀.IsNew) {m : Member} (hleaf : m.leaf.IsPlain w₀)
    {called later : List Label} {j request : Nat} {scope : Scope}
    (ht : (w₀.after called).tasks[j]? =
      some { scope, parent := some request, phase := .ready m.source })
    {o : Outcome} (ho : (w₀.after (called ++ later)).outcome? j = some o)
    {requested : List Label} (hrequested : requested <+: called) :
    ∃ slot : Slot, slot.member = m ∧ slot.task = j ∧ slot.course.outcome = o ∧
      slot.Occurs w₀ requested (called ++ later) request := by
  rw [after_append] at ho
  obtain ⟨before, rest, rfl, hbefore⟩ := exists_entry ht rfl ho
  rw [← after_append] at hbefore
  rw [after_append, after_cons, ← after_append] at ho
  obtain ⟨c, hplain, hread, rfl, hasked⟩ :=
    course_of_member (isPlain_after hleaf (called ++ before)) hbefore rfl rfl ho
  refine ⟨⟨m, j, called ++ before, c⟩, rfl, rfl, rfl, ?_, ?_, ⟨scope, hbefore⟩, hread,
    kept_of_reading hw hread, fun previous ended hc => ?_, hplain, ?_⟩
  · exact hrequested.trans (List.prefix_append _ _)
  · exact ⟨rest, by simp⟩
  · obtain ⟨mid, rest', rfl, hends⟩ := hasked previous ended hc
    exact ⟨mid, rest', by simp, hends⟩
  · rw [← List.append_assoc, after_append]
    exact ho

/-- A request which has an outcome has a slot for each member, and its outcome joins theirs. -/
theorem exists_slots (hw : w₀.IsNew) {metered : Bool} {members : List Member}
    (hplain : ∀ m ∈ members, m.leaf.IsPlain w₀) {first later : List Label} {o : Outcome}
    (ho : (w₀.after (first ++ [.serve (tree metered members)] ++ later)).outcome?
      (w₀.after first).tasks.length = some o) :
    ∃ slots : List Slot, slots.map Slot.member = members ∧
      (∃ start, slots.map Slot.task = List.range' start members.length) ∧
      (∀ slot ∈ slots, slot.Occurs w₀ (first ++ [.serve (tree metered members)])
        (first ++ [.serve (tree metered members)] ++ later) (w₀.after first).tasks.length) ∧
      o = .merge (slots.map fun slot => slot.course.outcome) := by
  obtain ⟨i, hi⟩ : ∃ i, (w₀.after first).tasks.length = i := ⟨_, rfl⟩
  obtain ⟨requested, hrequested⟩ :
      ∃ requested, first ++ [.serve (tree metered members)] = requested := ⟨_, rfl⟩
  rw [hi, hrequested] at ho ⊢
  have hserved : (w₀.after requested).tasks[i]? =
      some { scope := Scope.shutdown.within i, phase := .ready (tree metered members) } := by
    rw [← hrequested, after_append, ← hi]
    exact List.getElem?_concat_length
  rw [after_append] at ho
  obtain ⟨before, rest, rfl, hbefore⟩ := exists_entry hserved rfl ho
  rw [← after_append] at hbefore
  rw [after_append, after_cons, ← after_append] at ho
  obtain ⟨w, hw'⟩ : ∃ w, w₀.after (requested ++ before) = w := ⟨_, rfl⟩
  rw [hw'] at hbefore ho
  have hcalled : w₀.after (requested ++ before ++ [.run i]) = w.run i := by
    rw [after_append, hw']
    rfl
  have hlabels : requested ++ (before ++ .run i :: rest) =
      requested ++ before ++ [.run i] ++ rest := by simp
  obtain ⟨outs, hlen, hslots, rfl⟩ := outcome_of_fanOut hbefore rfl (.self _) ho
  rw [List.length_map] at hlen
  have hslot : ∀ k : Fin members.length, ∃ slot : Slot, slot.member = members[k] ∧
      slot.task = w.tasks.length + k ∧ some slot.course.outcome = outs[k.1]? ∧
      slot.Occurs w₀ requested (requested ++ (before ++ .run i :: rest)) i := by
    intro k
    have hk : k.1 < outs.length := Nat.lt_of_lt_of_eq k.2 hlen.symm
    have ht := member_of_fanOut hbefore rfl (.self _) (k := k)
      (by rw [List.getElem?_map, List.getElem?_eq_getElem k.2]; rfl)
    rw [← hcalled] at ht
    have hout := hslots k hk
    rw [← hcalled, ← after_append] at hout
    obtain ⟨slot, hmember, htask, hcourse, hoccurs⟩ :=
      exists_slot hw (hplain _ (List.getElem_mem k.2)) ht hout
        ((List.prefix_append requested before).trans (List.prefix_append _ _))
    refine ⟨slot, hmember, htask, ?_, by rw [hlabels]; exact hoccurs⟩
    rw [hcourse, List.getElem?_eq_getElem hk]
  choose f hmember htask hcourse hoccurs using hslot
  refine ⟨List.ofFn f, ?_, ⟨w.tasks.length, ?_⟩, ?_, ?_⟩
  · refine List.ext_getElem (by simp) fun k _ hk => ?_
    simp [hmember]
  · refine List.ext_getElem (by simp) fun k _ hk => ?_
    simp [htask]
  · intro slot hslot
    obtain ⟨k, rfl⟩ := List.mem_ofFn.1 hslot
    exact hoccurs k
  · refine congrArg Outcome.merge (List.ext_getElem (by simp [hlen]) fun k hk _ => ?_)
    have hk' := hcourse ⟨k, Nat.lt_of_lt_of_eq hk hlen⟩
    rw [List.getElem?_eq_getElem hk] at hk'
    simpa using (Option.some.inj hk').symm

/-- **Who asks for targets is answered with a failure exactly if a source panicked, or if it could
    not be refreshed and had never been before.**  Everybody else is answered with the targets of
    all sources in their order: the devices which are kept, those which were found, or those which
    were kept when the refresh failed.  So, when every source was refreshed once, only a panic
    makes an answer fail. -/
theorem targets_answered (hw : w₀.IsNew) {metered : Bool} {members : List Member}
    (hplain : ∀ m ∈ members, m.leaf.IsPlain w₀) (filters : List Filter)
    {first later : List Label} {o : Outcome}
    (ho : (w₀.after (first ++ [.serve (tree metered members)] ++ later)).outcome?
      (w₀.after first).tasks.length = some o) :
    ∃ (slots : List Slot) (response : Response),
      slots.map Slot.member = members ∧
      (∃ start, slots.map Slot.task = List.range' start members.length) ∧
      (∀ slot ∈ slots, slot.Occurs w₀ (first ++ [.serve (tree metered members)])
        (first ++ [.serve (tree metered members)] ++ later) (w₀.after first).tasks.length) ∧
      (Service.ofSource (tree metered members) filters).targetsResponse o = .ok response ∧
      (response.status = 500 ↔ ∃ slot ∈ slots, slot.course.Panics ∨
        (w₀.commits slot.member.cache slot.read = [] ∧ slot.course.RefreshFails)) ∧
      (response.status ≠ 500 → response.status = 200 ∧
        (Decoder.list TargetGroup.decoder).ofBytes (Text.utf8 response.body.toList) =
          .ok (targetGroups (slots.flatMap fun slot => slot.course.devices)
            (.emptyLabels :: filters))) ∧
      ((∀ m ∈ members, w₀.commits m.cache first ≠ []) → (∀ slot ∈ slots, ¬ slot.course.Panics) →
        response.status = 200) := by
  obtain ⟨slots, hmembers, htasks, hoccurs, rfl⟩ := exists_slots hw hplain ho
  have hcourses : ∀ c ∈ slots.map Slot.course, c.IsPlain := by
    intro c hc
    obtain ⟨slot, hslot, rfl⟩ := List.mem_map.1 hc
    exact (hoccurs slot hslot).plain
  obtain ⟨response, hresponse, hfails, hserved⟩ :=
    (Service.ofSource (tree metered members) filters).response_of_courses hcourses
  rw [List.map_map] at hresponse
  rw [List.flatMap_map] at hserved
  have hkept : ∀ slot ∈ slots,
      (slot.course.kept = none ↔ w₀.commits slot.member.cache slot.read = []) := by
    intro slot hslot
    rw [← (hoccurs slot hslot).kept, Option.map_eq_none_iff, List.getLast?_eq_none_iff]
  have hfails' : response.status = 500 ↔ ∃ slot ∈ slots, slot.course.Panics ∨
      (w₀.commits slot.member.cache slot.read = [] ∧ slot.course.RefreshFails) := by
    rw [hfails]
    constructor
    · rintro ⟨c, hc, h⟩
      obtain ⟨slot, hslot, rfl⟩ := List.mem_map.1 hc
      rw [Course.Fails, hkept slot hslot] at h
      exact ⟨slot, hslot, h⟩
    · rintro ⟨slot, hslot, h⟩
      refine ⟨slot.course, List.mem_map.2 ⟨slot, hslot, rfl⟩, ?_⟩
      rwa [Course.Fails, hkept slot hslot]
  have hok : response.status ≠ 500 → response.status = 200 := by
    intro hne
    rw [hserved hne]
    rfl
  refine ⟨slots, response, hmembers, htasks, hoccurs, hresponse, hfails', ?_, ?_⟩
  · intro hne
    refine ⟨hok hne, ?_⟩
    rw [hserved hne]
    exact groupsText_decodes _
  · intro hcommits hpanics
    refine hok fun h => ?_
    obtain ⟨slot, hslot, h | ⟨hnone, -⟩⟩ := hfails'.1 h
    · exact hpanics slot hslot h
    · -- what was committed before the request had been committed when the cache was read
      have hm : slot.member ∈ members := hmembers ▸ List.mem_map.2 ⟨slot, hslot, rfl⟩
      obtain ⟨rest, hrest⟩ := (hoccurs slot hslot).begun
      rw [← hrest, List.append_assoc, commits_append, List.append_eq_nil_iff] at hnone
      exact hcommits slot.member hm hnone.1

end

/-! ## Members which fare differently -/

/-- A world in which the first script always finds a device, the second finds two in turn, and the
    third finds one once.  All others fail. -/
def uneven : World where
  scripts
    | 0 => { cues := [{ outcome := .found [{ hostname := "a" }] }] }
    | 1 => { cues := [{ outcome := .found [{ hostname := "b" }] },
        { outcome := .found [{ hostname := "d" }] }] }
    | 2 => { cues := [{ outcome := .found [{ hostname := "c" }] },
        { outcome := .failed .canceled }] }
    | _ => { cues := [{ outcome := .failed .canceled }] }

theorem uneven_isNew : uneven.IsNew := by
  refine ⟨rfl, fun _ => rfl, fun id => ?_⟩
  match id with
  | 0 | 1 | 2 | _ + 3 => exact Nat.zero_le _

/-- The first three scripts, each behind a cache of its own.  The first is kept the longest. -/
def thirds : List Member :=
  [⟨0, .ofSeconds 60, false, .scripted 0⟩, ⟨1, .ofSeconds 30, false, .scripted 1⟩,
    ⟨2, .ofSeconds 30, false, .scripted 2⟩]

theorem thirds_isPlain : ∀ m ∈ thirds, m.leaf.IsPlain uneven := by
  simp [thirds, Leaf.IsPlain, uneven, Outcome.IsPlain, Failure.IsPlain]

/-- The first script, and one which fails. -/
def halves : List Member :=
  [⟨0, .ofSeconds 60, false, .scripted 0⟩, ⟨1, .ofSeconds 60, false, .scripted 3⟩]

theorem halves_isPlain : ∀ m ∈ halves, m.leaf.IsPlain uneven := by
  simp [halves, Leaf.IsPlain, uneven, Outcome.IsPlain, Failure.IsPlain]

/-- The caches of `thirds` are filled, and those of the last two expire. -/
def filled : List Label :=
  [.serve (tree false thirds), .run 0, .run 1, .run 2, .run 3, .run 0, .advance (.ofSeconds 30)]

/-- Then targets are asked for again. -/
def again : List Label := filled ++ [.serve (tree false thirds)]

/-- What happens to the second request. -/
def handled : List Label := [.run 4, .run 7, .run 5, .run 6, .run 4]

/-- When the tasks of the second request read their caches. -/
theorem read_of_again {slot : Slot}
    (h : slot.Occurs uneven again (again ++ handled) 4) :
    (slot.task = 7 ∧ slot.read = again ++ [.run 4]) ∨
      (slot.task = 5 ∧ slot.read = again ++ [.run 4, .run 7]) ∨
      (slot.task = 6 ∧ slot.read = again ++ [.run 4, .run 7, .run 5]) := by
  obtain ⟨mid, hmid⟩ := h.begun
  obtain ⟨rest, hrest⟩ := h.reads
  obtain ⟨scope, ht⟩ := h.task
  have hparent : (uneven.after slot.read).tasks[slot.task]?.bind Task.parent = some 4 := by
    rw [ht]
    rfl
  rw [← hmid, List.append_assoc, List.append_assoc, List.append_right_inj] at hrest
  have hrun : handled[mid.length]? = some (.run slot.task) := by
    rw [← hrest]
    simp
  have htake : handled.take mid.length = mid := by
    rw [← hrest]
    simp
  have hlt : mid.length < 5 := (List.getElem?_eq_some_iff.1 hrun).1
  rw [← hmid, ← htake] at hparent ⊢
  generalize mid.length = n at hrun hlt hparent ⊢
  generalize slot.task = j at hrun hparent ⊢
  -- the request itself, which is run first and last, is nobody's child
  obtain rfl | rfl | rfl | rfl | rfl : n = 0 ∨ n = 1 ∨ n = 2 ∨ n = 3 ∨ n = 4 := by omega
  · cases hrun
    exact absurd hparent (by decide)
  · cases hrun
    exact Or.inl ⟨rfl, rfl⟩
  · cases hrun
    exact Or.inr (Or.inl ⟨rfl, rfl⟩)
  · cases hrun
    exact Or.inr (Or.inr ⟨rfl, rfl⟩)
  · cases hrun
    exact absurd hparent (by decide)

theorem courses_of_again {slots : List Slot} (hmembers : slots.map Slot.member = thirds)
    {start : Nat} (htasks : slots.map Slot.task = List.range' start 3)
    (hoccurs : ∀ slot ∈ slots, slot.Occurs uneven again (again ++ handled) 4) :
    slots.map Slot.course = [.hit [{ hostname := "a" }],
      .refresh (some [{ hostname := "b" }]) (.found [{ hostname := "d" }]),
      .refresh (some [{ hostname := "c" }]) (.failed .canceled)] := by
  obtain ⟨first, tail, rfl, hfirst, hmembers⟩ := List.map_eq_cons_iff.1 hmembers
  obtain ⟨second, tail, rfl, hsecond, hmembers⟩ := List.map_eq_cons_iff.1 hmembers
  obtain ⟨third, tail, rfl, hthird, hmembers⟩ := List.map_eq_cons_iff.1 hmembers
  obtain rfl := List.map_eq_nil_iff.1 hmembers
  simp only [List.map_cons, List.map_nil, List.range', List.cons.injEq, and_true] at htasks
  have ho₁ := hoccurs first (by simp)
  have ho₂ := hoccurs second (by simp)
  have ho₃ := hoccurs third (by simp)
  have hr₁ := read_of_again ho₁
  have hr₂ := read_of_again ho₂
  have hr₃ := read_of_again ho₃
  obtain ⟨ht₁, hr₁⟩ : first.task = 5 ∧ first.read = again ++ [.run 4, .run 7] := by
    grind
  obtain ⟨ht₂, hr₂⟩ : second.task = 6 ∧ second.read = again ++ [.run 4, .run 7, .run 5] := by
    grind
  obtain ⟨ht₃, hr₃⟩ : third.task = 7 ∧ third.read = again ++ [.run 4] := by
    grind
  have hc₁ : first.course = .hit [{ hostname := "a" }] := by
    refine Course.eq_hit_of_reading ?_
    rw [← ho₁.reading, hfirst, hr₁]
    rfl
  have hc₂ : second.course =
      .refresh (some [{ hostname := "b" }]) (.found [{ hostname := "d" }]) := by
    refine Course.eq_refresh_of_reading ?_ (Option.some.inj ?_)
    · rw [← ho₂.reading, hsecond, hr₂]
      rfl
    · rw [← ho₂.outcome, ht₂]
      rfl
  have hc₃ : third.course = .refresh (some [{ hostname := "c" }]) (.failed .canceled) := by
    refine Course.eq_refresh_of_reading ?_ (Option.some.inj ?_)
    · rw [← ho₃.reading, hthird, hr₃]
      rfl
    · rw [← ho₃.outcome, ht₃]
      rfl
  rw [List.map_cons, List.map_cons, List.map_cons, List.map_nil, hc₁, hc₂, hc₃]

/-- A request is answered with what a cache still has, what a refresh found, and what stands in for
    a refresh which failed.  Another is answered with a failure: nothing can stand in. -/
theorem targets_answered_unevenly :
    (∃ (slots : List Slot) (response : Response),
      (∀ slot ∈ slots, slot.Occurs uneven again (again ++ handled) 4) ∧
      slots.map Slot.course = [.hit [{ hostname := "a" }],
        .refresh (some [{ hostname := "b" }]) (.found [{ hostname := "d" }]),
        .refresh (some [{ hostname := "c" }]) (.failed .canceled)] ∧
      response.status = 200 ∧
      (Decoder.list TargetGroup.decoder).ofBytes (Text.utf8 response.body.toList) =
        .ok (targetGroups [{ hostname := "a" }, { hostname := "d" }, { hostname := "c" }]
          [.emptyLabels])) ∧
    ∃ (slot : Slot) (response : Response),
      slot.Occurs uneven [.serve (tree false halves)]
        [.serve (tree false halves), .run 0, .run 1, .run 2, .run 0] 0 ∧
      (slot.course.Panics ∨
        (uneven.commits slot.member.cache slot.read = [] ∧ slot.course.RefreshFails)) ∧
      response.status = 500 := by
  constructor
  · have ho : (uneven.after (filled ++ [.serve (tree false thirds)] ++ handled)).outcome?
        (uneven.after filled).tasks.length = some (.failed (.aggregate
          [{ hostname := "a" }, { hostname := "d" }, { hostname := "c" }]
          [.stale [{ hostname := "c" }] .canceled])) := rfl
    obtain ⟨slots, response, hmembers, ⟨start, htasks⟩, hoccurs, hresponse, -, hserved, -⟩ :=
      targets_answered uneven_isNew thirds_isPlain [] ho
    have hcourses := courses_of_again hmembers htasks hoccurs
    have hdevices : slots.flatMap (fun slot => slot.course.devices) =
        [{ hostname := "a" }, { hostname := "d" }, { hostname := "c" }] := by
      have h := congrArg (List.flatMap Course.devices) hcourses
      rwa [List.flatMap_map] at h
    have hne : response.status ≠ 500 := by
      cases hresponse
      decide
    obtain ⟨hok, hbody⟩ := hserved hne
    rw [hdevices] at hbody
    exact ⟨slots, response, hoccurs, hcourses, hok, hbody⟩
  · have ho : (uneven.after ([] ++ [.serve (tree false halves)] ++
        [.run 0, .run 1, .run 2, .run 0])).outcome? (uneven.after []).tasks.length =
          some (.failed (.aggregate [{ hostname := "a" }] [.canceled])) := rfl
    obtain ⟨slots, response, -, -, hoccurs, hresponse, hfails, -⟩ :=
      targets_answered uneven_isNew halves_isPlain [] ho
    have hstatus : response.status = 500 := by
      cases hresponse
      rfl
    obtain ⟨slot, hslot, h⟩ := hfails.1 hstatus
    exact ⟨slot, response, hoccurs slot hslot, h, hstatus⟩

end World

end TailnetTargets
