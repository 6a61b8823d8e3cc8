/-
  Joint sources which are members of joint sources.

  * `Nest`: a tree of joint sources; `Nest.leaves` are the sources at its ends from left to right,
    and `Nest.flat` joins them all at once;
  * `World.begunFor`: the tasks which were begun for a task, in their order;
  * `World.leafOutcomes?`: how the calls of the leaves have ended which were begun for a call;
  * `exists_sums`: the outcome of a call sums up those of its leaves;
  * `exists_end_of_run`: when the calls of the leaves have ended, nothing but turns of tasks is left
    to the end of the call.
-/
import TailnetTargets.Proofs.Discovery.Forest
import TailnetTargets.Proofs.Discovery.Sums

namespace TailnetTargets

/-- A source at the end of a tree, or several trees which are joined. -/
inductive Nest where
  | leaf (s : Source)
  | node (metered : Bool) (members : List Nest)

namespace Nest

mutual

/-- The source which a tree is. -/
def source : Nest → Source
  | leaf s => s
  | node metered members => .fanOut metered (sources members)

/-- The sources which trees are. -/
def sources : List Nest → List Source
  | [] => []
  | n :: rest => n.source :: sources rest

end

mutual

/-- The sources at the ends of a tree, from left to right. -/
def leaves : Nest → List Source
  | leaf s => [s]
  | node _ members => allLeaves members

/-- The sources at the ends of trees. -/
def allLeaves : List Nest → List Source
  | [] => []
  | n :: rest => n.leaves ++ allLeaves rest

end

/-- The tree in which the same sources are joined at once. -/
def flat (n : Nest) (metered : Bool) : Nest := node metered (n.leaves.map leaf)

/-- What holds of a source, and of joint trees if of each of them, holds of all trees. -/
@[elab_as_elim]
theorem induct {motive : Nest → Prop} (leaf : ∀ s, motive (.leaf s))
    (node : ∀ metered members, (∀ n ∈ members, motive n) → motive (.node metered members))
    (n : Nest) : motive n :=
  match n with
  | .leaf s => leaf s
  | .node metered members => node metered members fun n _ => induct leaf node n

theorem sources_eq_map (members : List Nest) : sources members = members.map source := by
  induction members with
  | nil => rfl
  | cons n rest ih => rw [sources, ih, List.map_cons]

theorem source_flat (n : Nest) (metered : Bool) :
    (n.flat metered).source = .fanOut metered n.leaves := by
  have hid : source ∘ leaf = id := rfl
  rw [flat, source, sources_eq_map, List.map_map, hid, List.map_id]

end Nest

namespace World

/-! ## The tasks which were begun for a task -/

/-- The tasks which were begun for a task. -/
def begunFor (w : World) (i : Nat) : List Nat :=
  (List.range w.tasks.length).filter fun j => w.tasks[j]?.bind Task.parent = some i

/-- Those which are begun later stand behind those which were begun before. -/
theorem begunFor_after (w : World) (labels : List Label) (i : Nat) :
    (w.after labels).begunFor i = w.begunFor i ++
      (List.range' w.tasks.length ((w.after labels).tasks.length - w.tasks.length)).filter
        fun j => (w.after labels).tasks[j]?.bind Task.parent = some i := by
  have hrange : List.range (w.after labels).tasks.length = List.range w.tasks.length ++
      List.range' w.tasks.length ((w.after labels).tasks.length - w.tasks.length) := by
    have happend := List.range'_append_1 (s := 0) (m := w.tasks.length)
      (n := (w.after labels).tasks.length - w.tasks.length)
    rw [Nat.add_sub_cancel' (length_le_after w labels), Nat.zero_add] at happend
    rw [List.range_eq_range', List.range_eq_range', happend]
  rw [begunFor, hrange, List.filter_append]
  refine congrArg (· ++ _) (List.filter_congr fun j hj => ?_)
  have ht := List.getElem?_eq_getElem (List.mem_range.1 hj)
  obtain ⟨t', ht', hf⟩ := follows_after w labels ht
  rw [ht, ht', Option.bind_some, Option.bind_some, hf.parent]

section
variable {w : World} {i : Nat} {t : Task} {s : Source} {rs : List Refresh} {metered : Bool}
  {members : List Source}

theorem begunFor_of_isReady (hw : w.IsForest) (ht : w.tasks[i]? = some t) (hr : t.isReady) :
    w.begunFor i = [] := by
  refine List.filter_eq_nil_iff.2 fun j hj => ?_
  have hu := List.getElem?_eq_getElem (List.mem_range.1 hj)
  rw [hu, Option.bind_some, decide_eq_true_iff]
  intro hp
  exact hw.called j i _ t hu hp ht hr

/-- A task which comes to a joint source begins a task for each of its members, and for nobody
    else. -/
theorem begunFor_of_fanOut (hw : w.IsForest) (ht : w.tasks[i]? = some t) (hs : t.phase = .ready s)
    (hc : w.Calls s rs (.fanOut metered members)) :
    (w.run i).begunFor i = List.range' w.tasks.length members.length := by
  have hafter : (w.run i).begunFor i = _ := begunFor_after w [.run i] i
  have hlen : (w.after [.run i]).tasks.length - w.tasks.length = members.length := by
    have := length_of_fanOut ht hs hc
    change (w.run i).tasks.length - _ = _
    omega
  rw [hafter, begunFor_of_isReady hw ht (Task.isReady_iff.2 ⟨s, hs⟩), List.nil_append, hlen]
  refine List.filter_eq_self.2 fun j hj => ?_
  obtain ⟨k, hk, rfl⟩ := List.mem_range'.1 hj
  have hmember := member_of_fanOut ht hs hc (List.getElem?_eq_getElem hk)
  change decide ((w.run i).tasks[w.tasks.length + 1 * k]?.bind Task.parent = some i) = true
  rw [Nat.one_mul, hmember]
  simp

end

/-! ## The outcomes of leaves -/

mutual

/-- How the calls of the leaves of a tree have ended which were begun for a call of the tree, if all
    of them have. -/
def leafOutcomes? (w : World) : Nest → Nat → Option (List Outcome)
  | .leaf _, i => (w.outcome? i).map fun o => [o]
  | .node _ members, i => w.allLeafOutcomes? members (w.begunFor i)

/-- How the calls of the leaves of several trees have ended, each of which was called by a task. -/
def allLeafOutcomes? (w : World) : List Nest → List Nat → Option (List Outcome)
  | [], _ => some []
  | _ :: _, [] => none
  | n :: members, i :: tasks =>
    (w.leafOutcomes? n i).bind fun os =>
      (w.allLeafOutcomes? members tasks).map fun os' => os ++ os'

end

theorem allLeafOutcomes?_cons {w : World} {n : Nest} {members : List Nest} {tasks : List Nat}
    {os : List Outcome} (h : w.allLeafOutcomes? (n :: members) tasks = some os) :
    ∃ i rest first second, tasks = i :: rest ∧ w.leafOutcomes? n i = some first ∧
      w.allLeafOutcomes? members rest = some second ∧ os = first ++ second := by
  cases tasks with
  | nil => simp [allLeafOutcomes?] at h
  | cons i rest =>
    rw [allLeafOutcomes?] at h
    obtain ⟨first, hfirst, h⟩ := Option.bind_eq_some_iff.1 h
    obtain ⟨second, hsecond, rfl⟩ := Option.map_eq_some_iff.1 h
    exact ⟨i, rest, first, second, rfl, hfirst, hsecond, rfl⟩

/-- The outcomes of leaves do not change any more when all of them are there. -/
theorem leafOutcomes?_after {w : World} (labels : List Label) (n : Nest) :
    ∀ {i : Nat} {os : List Outcome}, w.leafOutcomes? n i = some os →
      (w.after labels).leafOutcomes? n i = some os := by
  induction n using Nest.induct with
  | leaf s =>
    intro i os h
    rw [leafOutcomes?] at h ⊢
    obtain ⟨o, ho, rfl⟩ := Option.map_eq_some_iff.1 h
    rw [outcome?_after labels ho]
    rfl
  | node metered members ih =>
    intro i os h
    rw [leafOutcomes?] at h ⊢
    rw [begunFor_after]
    generalize w.begunFor i = tasks at h
    induction members generalizing tasks os with
    | nil =>
      rw [allLeafOutcomes?] at h ⊢
      exact h
    | cons n members ihm =>
      obtain ⟨j, rest, first, second, rfl, hfirst, hsecond, rfl⟩ := allLeafOutcomes?_cons h
      have hn := ih n (List.mem_cons_self ..) hfirst
      have hrest := ihm (fun m hm => ih m (List.mem_cons_of_mem _ hm)) rest hsecond
      rw [List.cons_append, allLeafOutcomes?, hn, hrest]
      rfl

/-! ## Calls of trees -/

/-- A task of a run was begun in order to call a source. -/
def Begun (w₀ : World) (labels : List Label) (i : Nat) (s : Source) : Prop :=
  ∃ before rest t, labels = before ++ rest ∧ (w₀.after before).tasks[i]? = some t ∧
    t.phase = .ready s

section
variable {w₀ : World} {labels : List Label} {i : Nat} {s : Source}

theorem Begun.append (h : w₀.Begun labels i s) (more : List Label) :
    w₀.Begun (labels ++ more) i s := by
  obtain ⟨before, rest, t, rfl, ht, hs⟩ := h
  exact ⟨before, rest ++ more, t, List.append_assoc .., ht, hs⟩

/-- A task which has an outcome has called its source. -/
theorem Begun.exists_run (h : w₀.Begun labels i s) {o : Outcome}
    (ho : (w₀.after labels).outcome? i = some o) :
    ∃ before rest t, labels = before ++ .run i :: rest ∧ (w₀.after before).tasks[i]? = some t ∧
      t.phase = .ready s := by
  obtain ⟨before, rest, t, rfl, ht, hs⟩ := h
  rw [after_append] at ho
  obtain ⟨waiting, rest, rfl, ht'⟩ := exists_entry ht (Task.isReady_iff.2 ⟨s, hs⟩) ho
  rw [← after_append] at ht'
  exact ⟨before ++ waiting, rest, t, by simp, ht', hs⟩

end

section
variable {w₀ : World} {before : List Label} {i : Nat} {t : Task} {metered : Bool}
  {members : List Nest}

/-- What has become of the call of a tree, and of those which were begun for it. -/
theorem members_of_run (hw : w₀.tasks = []) (ht : (w₀.after before).tasks[i]? = some t)
    (hs : t.phase = .ready (Nest.node metered members).source) (rest : List Label) :
    (∃ more, (w₀.after (before ++ .run i :: rest)).begunFor i =
      List.range' (w₀.after before).tasks.length members.length ++ more) ∧
    ∀ k n, members[k]? = some n →
      w₀.Begun (before ++ .run i :: rest) ((w₀.after before).tasks.length + k) n.source ∧
      ∀ u, (w₀.after (before ++ .run i :: rest)).tasks[(w₀.after before).tasks.length + k]? =
        some u → u.phase ≠ .dropped := by
  have hforest : (w₀.after before).IsForest := (isForest_of_tasks hw).after before
  have hc : (w₀.after before).Calls (Nest.node metered members).source []
      (.fanOut metered (members.map Nest.source)) := by
    rw [← Nest.sources_eq_map]
    exact .self _
  have hsplit : w₀.after (before ++ .run i :: rest) = ((w₀.after before).run i).after rest :=
    after_append ..
  constructor
  · rw [hsplit, begunFor_after, begunFor_of_fanOut hforest ht hs hc, List.length_map]
    exact ⟨_, rfl⟩
  · intro k n hn
    have hmember := member_of_fanOut ht hs hc (k := k) (m := n.source) (by simp [hn])
    have hrun : w₀.after (before ++ [.run i]) = (w₀.after before).run i := after_append ..
    have hbegun := hmember
    rw [← hrun] at hbegun
    refine ⟨⟨before ++ [.run i], rest, _, by simp, hbegun, rfl⟩, fun u hu hd => ?_⟩
    rw [hsplit] at hu
    obtain ⟨u', hu', hf⟩ := follows_after _ rest hmember
    obtain rfl := Option.some.inj (hu.symm.trans hu')
    rcases hf.dropped hd with h | h <;> cases h

end

/-! ## The outcome of a call -/

theorem allLeafOutcomes?_of_slots {w : World} (members : List Nest) (more : List Nat) :
    ∀ (first : Nat) {slots : List Outcome}, slots.length = members.length →
      (∀ k n o, members[k]? = some n → slots[k]? = some o →
        ∃ os, w.leafOutcomes? n (first + k) = some os ∧ Outcome.Sums os o) →
      ∃ os, w.allLeafOutcomes? members (List.range' first members.length ++ more) = some os ∧
        Outcome.SumsAll os slots := by
  induction members with
  | nil =>
    intro first slots hlen _
    rw [List.length_nil, List.length_eq_zero_iff] at hlen
    exact ⟨[], rfl, hlen ▸ .nil⟩
  | cons n members ih =>
    intro first slots hlen h
    cases slots with
    | nil => cases hlen
    | cons o slots =>
      obtain ⟨os, hos, hsums⟩ := h 0 n o rfl rfl
      obtain ⟨os', hos', hall⟩ := ih (first + 1) (Nat.succ.inj hlen) fun k n o hn ho => by
        have hk : first + 1 + k = first + (k + 1) := by omega
        rw [hk]
        exact h (k + 1) n o hn ho
      refine ⟨os ++ os', ?_, .cons hsums hall⟩
      rw [List.length_cons, List.range'_succ, List.cons_append, allLeafOutcomes?,
        show w.leafOutcomes? n first = some os from hos, hos']
      rfl

section
variable {w₀ : World} {labels : List Label} {i : Nat} {o : Outcome}

/-- The outcome of a joint source joins those of its members. -/
theorem exists_slots_of_node (hw : w₀.tasks = []) {metered : Bool} {members : List Nest}
    (h : w₀.Begun labels i (Nest.node metered members).source)
    (ho : (w₀.after labels).outcome? i = some o) :
    ∃ before rest t slots, labels = before ++ .run i :: rest ∧
      (w₀.after before).tasks[i]? = some t ∧
      t.phase = .ready (Nest.node metered members).source ∧ slots.length = members.length ∧
      (w₀.after labels).Slots (w₀.after before).tasks.length slots ∧ o = .merge slots := by
  obtain ⟨before, rest, t, rfl, ht, hs⟩ := h.exists_run ho
  have hrs := refreshes_of_isReady hw before ht (Task.isReady_iff.2 ⟨_, hs⟩)
  rw [after_append, after_cons] at ho
  obtain ⟨slots, hlen, hslots, heq⟩ := outcome_of_fanOut ht hs (.self _) ho
  rw [Nest.sources_eq_map, List.length_map] at hlen
  refine ⟨before, rest, t, slots, rfl, ht, hs, hlen, ?_, ?_⟩
  · rw [after_append]
    exact hslots
  · rw [heq, hrs]
    rfl

/-- The outcome of the call of a tree sums up the outcomes of its leaves. -/
theorem exists_sums (hw : w₀.tasks = []) (n : Nest) :
    ∀ {i : Nat} {o : Outcome}, w₀.Begun labels i n.source →
      (w₀.after labels).outcome? i = some o →
      ∃ os, (w₀.after labels).leafOutcomes? n i = some os ∧ Outcome.Sums os o := by
  induction n using Nest.induct with
  | leaf s =>
    intro i o _ ho
    refine ⟨[o], ?_, .self o⟩
    rw [leafOutcomes?, ho]
    rfl
  | node metered members ih =>
    intro i o h ho
    obtain ⟨before, rest, t, slots, rfl, ht, hs, hlen, hslots, rfl⟩ := exists_slots_of_node hw h ho
    obtain ⟨⟨more, hmore⟩, hmembers⟩ := members_of_run hw ht hs rest
    have hends : ∀ k n o, members[k]? = some n → slots[k]? = some o →
        ∃ os, (w₀.after (before ++ .run i :: rest)).leafOutcomes? n
          ((w₀.after before).tasks.length + k) = some os ∧ Outcome.Sums os o := by
      intro k n o hn hk
      obtain ⟨hlt, rfl⟩ := List.getElem?_eq_some_iff.1 hk
      exact ih n (List.mem_of_getElem? hn) (hmembers k n hn).1 (hslots k hlt)
    obtain ⟨os, hos, hall⟩ := allLeafOutcomes?_of_slots members more _ hlen hends
    exact ⟨os, by rw [leafOutcomes?, hmore, hos], hall.sums_merge⟩

end

/-! ## The end of a call -/

theorem exists_of_allLeafOutcomes? {w : World} (members : List Nest) (more : List Nat) :
    ∀ {first : Nat} {os : List Outcome},
      w.allLeafOutcomes? members (List.range' first members.length ++ more) = some os →
      ∀ k n, members[k]? = some n → ∃ os', w.leafOutcomes? n (first + k) = some os' := by
  induction members with
  | nil => intro first os _ k n hn; cases hn
  | cons n members ih =>
    intro first os h k m hm
    rw [List.length_cons, List.range'_succ, List.cons_append] at h
    obtain ⟨_, _, os₁, os₂, hcons, h₁, h₂, -⟩ := allLeafOutcomes?_cons h
    obtain ⟨rfl, rfl⟩ := List.cons.inj hcons
    cases k with
    | zero =>
      cases hm
      exact ⟨os₁, h₁⟩
    | succ k =>
      have hk : first + (k + 1) = first + 1 + k := by omega
      rw [hk]
      exact ih h₂ k m hm

/-- When the calls of the leaves of a tree have ended, its own call does so, unless it is dropped,
    when tasks have taken some turns more. -/
def EndsWithLeaves (w₀ : World) (n : Nest) : Prop :=
  ∀ (labels : List Label) (i : Nat) (os : List Outcome), w₀.Begun labels i n.source →
    (∀ t, (w₀.after labels).tasks[i]? = some t → t.phase ≠ .dropped) →
    (w₀.after labels).leafOutcomes? n i = some os →
    ∃ more, (∀ l ∈ more, ∃ k, l = .run k) ∧ ∃ o, (w₀.after (labels ++ more)).outcome? i = some o

section
variable {w₀ : World}

theorem Begun.lt {labels : List Label} {i : Nat} {s : Source} (h : w₀.Begun labels i s) :
    i < (w₀.after labels).tasks.length := by
  obtain ⟨before, rest, t, rfl, ht, -⟩ := h
  rw [after_append]
  exact Nat.lt_of_lt_of_le (List.getElem?_eq_some_iff.1 ht).1 (length_le_after _ _)

/-- Several calls, one after the other. -/
theorem exists_ends (members : List Nest) (ih : ∀ n ∈ members, w₀.EndsWithLeaves n) :
    ∀ (first : Nat) (labels : List Label),
      (∀ k n, members[k]? = some n → w₀.Begun labels (first + k) n.source ∧
        (∀ t, (w₀.after labels).tasks[first + k]? = some t → t.phase ≠ .dropped) ∧
        ∃ os, (w₀.after labels).leafOutcomes? n (first + k) = some os) →
      ∃ more, (∀ l ∈ more, ∃ k, l = .run k) ∧
        ∀ k < members.length, ∃ o, (w₀.after (labels ++ more)).outcome? (first + k) = some o := by
  induction members with
  | nil => exact fun first labels _ => ⟨[], by simp, by simp⟩
  | cons n members ihm =>
    intro first labels h
    obtain ⟨hbegun, hnot, os, hos⟩ := h 0 n rfl
    obtain ⟨more₁, hruns₁, o, ho⟩ :=
      ih n (List.mem_cons_self ..) labels (first + 0) os hbegun hnot hos
    -- the calls of the others stand after these turns as they stood before
    obtain ⟨more₂, hruns₂, hends⟩ := ihm (fun m hm => ih m (List.mem_cons_of_mem _ hm)) (first + 1)
      (labels ++ more₁) fun k m hm => by
        have hk : first + 1 + k = first + (k + 1) := by omega
        obtain ⟨hbegun, hnot, os, hos⟩ := h (k + 1) m hm
        rw [hk]
        refine ⟨hbegun.append more₁, ?_, os, ?_⟩
        · rw [after_append]
          exact not_dropped_of_runs hruns₁ hbegun.lt hnot
        · rw [after_append]
          exact leafOutcomes?_after more₁ m hos
    refine ⟨more₁ ++ more₂, ?_, fun k hk => ?_⟩
    · intro l hl
      exact (List.mem_append.1 hl).elim (hruns₁ l) (hruns₂ l)
    · rw [← List.append_assoc]
      cases k with
      | zero => exact ⟨o, by rw [after_append]; exact outcome?_after more₂ ho⟩
      | succ k =>
        have hk' : first + (k + 1) = first + 1 + k := by omega
        rw [hk']
        exact hends k (Nat.lt_of_succ_lt_succ hk)

/-- A joint source which has called its members ends when these have ended. -/
theorem exists_end_of_run (hw : w₀.tasks = []) {metered : Bool} {members : List Nest}
    (ih : ∀ n ∈ members, w₀.EndsWithLeaves n) {before : List Label} (rest : List Label) {i : Nat}
    {t : Task} (ht : (w₀.after before).tasks[i]? = some t)
    (hs : t.phase = .ready (Nest.node metered members).source)
    (hnot : ∀ u, (w₀.after (before ++ .run i :: rest)).tasks[i]? = some u → u.phase ≠ .dropped)
    {os : List Outcome}
    (hos : (w₀.after (before ++ .run i :: rest)).leafOutcomes? (.node metered members) i =
      some os) :
    ∃ more, (∀ l ∈ more, ∃ k, l = .run k) ∧
      ∃ o, (w₀.after (before ++ .run i :: rest ++ more)).outcome? i = some o := by
  obtain ⟨⟨tasks, htasks⟩, hmembers⟩ := members_of_run hw ht hs rest
  rw [leafOutcomes?, htasks] at hos
  have hleaves := exists_of_allLeafOutcomes? members tasks hos
  obtain ⟨more, hruns, hends⟩ := exists_ends members ih (w₀.after before).tasks.length
    (before ++ .run i :: rest)
    fun k n hn => ⟨(hmembers k n hn).1, (hmembers k n hn).2, hleaves k n hn⟩
  have hlt : i < (w₀.after (before ++ .run i :: rest)).tasks.length := by
    rw [after_append]
    exact Nat.lt_of_lt_of_le (List.getElem?_eq_some_iff.1 ht).1 (length_le_after _ _)
  have hnot' := not_dropped_of_runs hruns hlt hnot
  have hsplit : (w₀.after (before ++ .run i :: rest)).after more =
      ((w₀.after before).run i).after (rest ++ more) := by
    rw [after_append, after_cons, after_append]
    rfl
  simp only [after_append w₀ (before ++ .run i :: rest), hsplit] at hends hnot'
  rw [← List.length_map (f := Nest.source), ← Nest.sources_eq_map] at hends
  obtain ⟨o, ho⟩ := exists_outcome_of_fanOut ht hs (.self _) hends hnot'
  refine ⟨more ++ [.run i], fun l hl => ?_, o, ?_⟩
  · rcases List.mem_append.1 hl with hl | hl
    · exact hruns l hl
    · exact ⟨i, List.mem_singleton.1 hl⟩
  · rw [← List.append_assoc, after_append, after_append _ (before ++ .run i :: rest), hsplit,
      ← after_append]
    exact ho

theorem endsWithLeaves (hw : w₀.tasks = []) (n : Nest) : w₀.EndsWithLeaves n := by
  induction n using Nest.induct with
  | leaf s =>
    intro labels i os _ _ hos
    rw [leafOutcomes?] at hos
    obtain ⟨o, ho, -⟩ := Option.map_eq_some_iff.1 hos
    exact ⟨[], by simp, o, by rwa [List.append_nil]⟩
  | node metered members ih =>
    intro labels i os h hnot hos
    have hlt := h.lt
    obtain ⟨before, rest, t, rfl, ht, hs⟩ := h
    rcases entry_cases ht (Task.isReady_iff.2 ⟨_, hs⟩) rest with
      hready | hdropped | ⟨waiting, rest, rfl, ht'⟩
    · -- the call has yet to come to its source
      rw [← after_append] at hready
      have hrun : ∀ l ∈ [Label.run i], ∃ k, l = .run k := fun l hl => ⟨i, List.mem_singleton.1 hl⟩
      obtain ⟨more, hruns, o, ho⟩ := exists_end_of_run hw ih [] hready hs
        (by rw [after_append]; exact not_dropped_of_runs hrun hlt hnot)
        (by rw [after_append]; exact leafOutcomes?_after _ _ hos)
      refine ⟨.run i :: more, fun l hl => ?_, o, ?_⟩
      · rcases List.mem_cons.1 hl with rfl | hl
        · exact ⟨i, rfl⟩
        · exact hruns l hl
      · rw [List.append_assoc] at ho
        exact ho
    · rw [← after_append] at hdropped
      exact absurd rfl (hnot _ hdropped)
    · rw [← after_append] at ht'
      rw [← List.append_assoc] at hnot hos ⊢
      exact exists_end_of_run hw ih rest ht' hs hnot hos

end

end World

end TailnetTargets
