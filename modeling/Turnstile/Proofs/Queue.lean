import Turnstile.Queue.Basic
/-! What the work queue keeps. A key that was added stays in it until it is handed
out, and only handing out takes one away. -/
namespace Turnstile.WorkQueue
variable {K : Type} [DecidableEq K]

structure Steady (q : WorkQueue K) : Prop where
  running : q.isShutdown = false
  placed : ∀ k ∈ q.dirty, k ∈ q.ready ∨ k ∈ q.processing

def Keeps (q : WorkQueue K) (k : K) : Prop := k ∈ q.dirty ∨ k ∈ q.delayed.map Delayed.key

section
variable {q : WorkQueue K} {k j : K} {now delay : Duration}

theorem addKeeps (kept : q.Keeps j) : (q.add k).Keeps j := by
  unfold add
  split
  · exact kept
  · split
    · exact kept.imp_left (List.mem_cons_of_mem _)
    · exact kept.imp_left (List.mem_cons_of_mem _)

theorem addDirty (running : q.isShutdown = false) : k ∈ (q.add k).dirty := by
  unfold add
  split
  · rename_i already
    simpa [running] using already
  · split
    · exact List.mem_cons_self ..
    · exact List.mem_cons_self ..

theorem addProcessing : (q.add k).processing = q.processing := by
  unfold add
  split
  · rfl
  · split <;> rfl

theorem addSteady (steady : q.Steady) : (q.add k).Steady := by
  unfold add
  split
  · exact steady
  · split
    · rename_i held
      refine ⟨steady.running, fun j inside => ?_⟩
      rcases List.mem_cons.mp inside with rfl | before
      · exact .inr held
      · exact steady.placed j before
    · refine ⟨steady.running, fun j inside => ?_⟩
      rcases List.mem_cons.mp inside with rfl | before
      · exact .inl (List.mem_append_right _ (List.mem_singleton.mpr rfl))
      · exact (steady.placed j before).imp_left (List.mem_append_left _)

theorem addAllKeeps {ks : List K} (kept : q.Keeps j) : (q.addAll ks).Keeps j := by
  unfold addAll
  induction ks generalizing q with
  | nil => exact kept
  | cons k rest ih => exact ih (addKeeps kept)

theorem addAllSteady {ks : List K} (steady : q.Steady) : (q.addAll ks).Steady := by
  unfold addAll
  induction ks generalizing q with
  | nil => exact steady
  | cons k rest ih => exact ih (addSteady steady)

theorem addAllProcessing {ks : List K} : (q.addAll ks).processing = q.processing := by
  unfold addAll
  induction ks generalizing q with
  | nil => rfl
  | cons k rest ih => exact (ih (q := q.add k)).trans addProcessing

theorem addAllAdded {ks : List K} (steady : q.Steady) (inside : k ∈ ks) : (q.addAll ks).Keeps k := by
  unfold addAll
  induction ks generalizing q with
  | nil => cases inside
  | cons first rest ih =>
    rcases List.mem_cons.mp inside with rfl | later
    · have kept : ((q.add k).addAll rest).Keeps k := addAllKeeps (.inl (addDirty steady.running))
      exact kept
    · exact ih (addSteady steady) later

theorem addAfterKeeps (kept : q.Keeps j) : (q.addAfter now k delay).Keeps j := by
  unfold addAfter
  split
  · exact addKeeps kept
  · split
    · exact kept
    · dsimp only
      split
      · exact kept
      · refine kept.imp_right fun delayed => ?_
        obtain ⟨d, inside, rfl⟩ := List.mem_map.mp delayed
        by_cases same : d.key = k
        · exact List.mem_map.mpr ⟨_, List.mem_append_right _ (List.mem_singleton.mpr rfl), same.symm⟩
        · exact List.mem_map_of_mem
            (List.mem_append_left _ (List.mem_filter.mpr ⟨inside, by simpa using same⟩))

theorem addAfterAdded (running : q.isShutdown = false) : (q.addAfter now k delay).Keeps k := by
  unfold addAfter
  split
  · exact .inl (addDirty running)
  · split
    · rename_i shut
      rw [running] at shut
      cases shut
    · dsimp only
      split
      · rename_i earlier
        refine .inr ?_
        unfold deadline? at earlier
        cases found : q.delayed.find? (fun d => d.key == k) with
        | none => rw [found] at earlier; cases earlier
        | some d =>
          have own : d.key = k := by simpa using List.find?_some found
          exact List.mem_map.mpr ⟨d, List.mem_of_find?_eq_some found, own⟩
      · exact .inr (List.mem_map.mpr ⟨_, List.mem_append_right _ (List.mem_singleton.mpr rfl), rfl⟩)

theorem addAfterProcessing : (q.addAfter now k delay).processing = q.processing := by
  unfold addAfter
  split
  · exact addProcessing
  · split
    · rfl
    · dsimp only
      split <;> rfl

theorem addAfterSteady (steady : q.Steady) : (q.addAfter now k delay).Steady := by
  unfold addAfter
  split
  · exact addSteady steady
  · split
    · exact steady
    · dsimp only
      split
      · exact steady
      · exact ⟨steady.running, steady.placed⟩

theorem nextTakes {r : WorkQueue K} (taken : q.next? = some (k, r)) :
    ∃ rest, q.ready = k :: rest ∧ r = { q with
      ready := rest
      dirty := q.dirty.filter (· != k)
      processing := hold k q.processing } := by
  unfold next? at taken
  split at taken
  · cases taken
  · split at taken
    · cases taken
    · rename_i first rest line
      cases taken
      exact ⟨rest, line, rfl⟩

theorem holdMem : j ∈ hold k q.processing ↔ j = k ∨ j ∈ q.processing := by
  unfold hold
  split
  · rename_i held
    exact ⟨.inr, fun either => either.elim (fun same => same ▸ held) id⟩
  · exact List.mem_cons

theorem nextKeeps {r : WorkQueue K} (taken : q.next? = some (k, r)) (kept : q.Keeps j) :
    j = k ∨ r.Keeps j := by
  obtain ⟨rest, line, rfl⟩ := nextTakes taken
  by_cases same : j = k
  · exact .inl same
  · exact .inr (kept.imp_left fun dirty => List.mem_filter.mpr ⟨dirty, by simpa using same⟩)

theorem nextSteady {r : WorkQueue K} (taken : q.next? = some (k, r)) (steady : q.Steady) : r.Steady := by
  obtain ⟨rest, line, rfl⟩ := nextTakes taken
  refine ⟨steady.running, fun j inside => ?_⟩
  obtain ⟨dirty, different⟩ := List.mem_filter.mp inside
  have different : j ≠ k := by simpa using different
  rcases steady.placed j dirty with waits | held
  · rw [line] at waits
    exact .inl ((List.mem_cons.mp waits).resolve_left different)
  · exact .inr (holdMem.mpr (.inr held))

theorem releaseKeeps (kept : q.Keeps j) : (q.release k).Keeps j := by
  unfold release
  dsimp only
  split <;> exact kept

theorem releaseProcessing : j ∈ (q.release k).processing ↔ j ∈ q.processing ∧ j ≠ k := by
  unfold release
  dsimp only
  split <;> simp

theorem releaseSteady (steady : q.Steady) : (q.release k).Steady := by
  unfold release
  dsimp only
  split
  · refine ⟨steady.running, fun j dirty => ?_⟩
    by_cases same : j = k
    · exact .inl (List.mem_append_right _ (List.mem_singleton.mpr same))
    · rcases steady.placed j dirty with waits | held
      · exact .inl (List.mem_append_left _ waits)
      · exact .inr (List.mem_filter.mpr ⟨held, by simpa using same⟩)
  · rename_i clean
    refine ⟨steady.running, fun j dirty => ?_⟩
    have different : j ≠ k := by
      intro same
      subst same
      simp [dirty, steady.running] at clean
    rcases steady.placed j dirty with waits | held
    · exact .inl waits
    · exact .inr (List.mem_filter.mpr ⟨held, by simpa using different⟩)

theorem expireSteady (steady : q.Steady) : (q.expire now).Steady :=
  addAllSteady ⟨steady.running, steady.placed⟩

theorem expireProcessing : (q.expire now).processing = q.processing := addAllProcessing

theorem expireKeeps (steady : q.Steady) (kept : q.Keeps j) : (q.expire now).Keeps j := by
  unfold expire
  rcases kept with dirty | delayed
  · exact addAllKeeps (.inl dirty)
  · obtain ⟨d, inside, rfl⟩ := List.mem_map.mp delayed
    by_cases ripe : isDue now d = true
    · refine addAllAdded ⟨steady.running, steady.placed⟩ ?_
      exact List.mem_map_of_mem (List.mem_mergeSort.mpr (List.mem_filter.mpr ⟨inside, ripe⟩))
    · refine addAllKeeps (.inr ?_)
      exact List.mem_map_of_mem (List.mem_filter.mpr ⟨inside, by simpa using ripe⟩)

end

def fire (q : WorkQueue K) (k : K) : WorkQueue K :=
  { q with delayed := q.delayed.filter fun d => d.key != k }.add k

section
variable {q : WorkQueue K} {k j : K}

theorem fireSteady (steady : q.Steady) : (q.fire k).Steady :=
  addSteady ⟨steady.running, steady.placed⟩

theorem fireProcessing : (q.fire k).processing = q.processing := addProcessing

theorem fireKeeps (steady : q.Steady) (kept : q.Keeps j) : (q.fire k).Keeps j := by
  unfold fire
  by_cases same : j = k
  · subst same
    exact .inl (addDirty steady.running)
  · refine addKeeps (kept.imp_right fun delayed => ?_)
    obtain ⟨d, inside, rfl⟩ := List.mem_map.mp delayed
    exact List.mem_map_of_mem (List.mem_filter.mpr ⟨inside, by simpa using same⟩)

end
end Turnstile.WorkQueue
