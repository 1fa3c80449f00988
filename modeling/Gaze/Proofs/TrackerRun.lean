import Gaze.Tracker

/-! What a tracker's run is made of. One update keeps the estimator, returns the event's sample
under it, sets the state from the event's gaze flag alone and moves the old state to the last
state; by induction over the events, the samples of a run are the events' samples each on its
own, the states are the events' flags, and the last states are the states one step behind,
starting from the state the tracker started in. The tracker that has seen nothing is the one
built from the default configuration, so its samples are the events normalized one by one. -/

namespace Gaze.Tracker

variable {α : Type} [Scalar α]

theorem run_cons (t : Tracker α) (e : Event α) (es : List (Event α)) :
    t.run (e :: es) = t.update e :: (t.update e).1.run es := rfl

theorem map_snd_run (t : Tracker α) (es : List (Event α)) :
    (t.run es).map Prod.snd = es.map (Sample.ofEvent t.estimator) := by
  induction es generalizing t with
  | nil => rfl
  | cons e es ih => simp only [run_cons, List.map_cons, update_sample, ih, update_estimator]

/-- The states of a run are read off the events' gaze flags. -/
theorem map_state_run (t : Tracker α) (es : List (Event α)) :
    (t.run es).map (·.1.state) = es.map fun e => if e.gazeValid then .ok else .lost := by
  induction es generalizing t with
  | nil => rfl
  | cons e es ih => simp only [run_cons, List.map_cons, update_state, ih]

/-- The last states of a run are its states one step behind, after the starting state. -/
theorem map_lastState_run (t : Tracker α) (es : List (Event α)) :
    (t.run es).map (·.1.lastState) = (t.state :: (t.run es).map (·.1.state)).dropLast := by
  induction es generalizing t with
  | nil => rfl
  | cons e es ih =>
    rw [run_cons, List.map_cons, List.map_cons, ih, update_lastState, List.dropLast_cons_cons]

theorem state_ne_noSamplesYet_of_mem_run {t : Tracker α} {es : List (Event α)}
    {step : Tracker α × Sample α} (h : step ∈ t.run es) : step.1.state ≠ .noSamplesYet := by
  have hmem : step.1.state ∈ es.map fun e => if e.gazeValid then .ok else .lost := by
    rw [← map_state_run]
    exact List.mem_map_of_mem h
  obtain ⟨e, -, he⟩ := List.mem_map.mp hmem
  rw [← he]
  split <;> simp

/-- A tracker run from a configuration's estimator: its samples are the events' samples each
on its own, its states follow the events' gaze flags, its last states trail its states from
nothing seen, and it never returns to nothing seen. The tracker that has seen nothing is the
one of the default configuration, and its samples are the events normalized one by one. -/
theorem run_new_ofConfig (c : Vergence.Config α) (es : List (Event α)) :
    ((new (Vergence.Estimator.ofConfig c)).run es).map Prod.snd =
        es.map (Sample.ofEvent (Vergence.Estimator.ofConfig c)) ∧
      ((new (Vergence.Estimator.ofConfig c)).run es).map (·.1.state) =
        es.map (fun e => if e.gazeValid then .ok else .lost) ∧
      ((new (Vergence.Estimator.ofConfig c)).run es).map (·.1.lastState) =
        (.noSamplesYet :: ((new (Vergence.Estimator.ofConfig c)).run es).map (·.1.state)).dropLast ∧
      (∀ step ∈ (new (Vergence.Estimator.ofConfig c)).run es, step.1.state ≠ .noSamplesYet) ∧
      (default : Tracker α) = new (Vergence.Estimator.ofConfig Vergence.Config.default) ∧
      ((default : Tracker α).run es).map Prod.snd = Sample.normalizeAll es :=
  ⟨map_snd_run _ es, map_state_run _ es, map_lastState_run _ es,
    fun _ h => state_ne_noSamplesYet_of_mem_run h, rfl, map_snd_run _ es⟩

end Gaze.Tracker
