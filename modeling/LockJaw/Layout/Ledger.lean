import LockJaw.Layout.Helper

/-! What the helper's calls are for: some constraints stay, and each key has the constraints
that were set for it last. The helper's view holds exactly these after any calls, whether
they completed or raised. -/
namespace LockJaw

/-- The abstract helper. It has no objects to take away again: it forgets. -/
structure ConstraintLedger (V F W : Type) extends LayoutContext V F where
  permanent : List (Installed V F W)
  temporal : Text → List (Installed V F W)
  created : Nat

section Ledger
variable {V F W : Type} (platform : UIKitLayout V F W)

def newLedger (view : V) (inTree : V → Bool) : ConstraintLedger V F W where
  view := view
  subViews := fun _ => none
  metrics := fun _ => none
  inTree := inTree
  permanent := []
  temporal := fun _ => []
  created := 0

/-- The objects of some texts, up to the exception of the first text that raises. -/
def made (context : LayoutContext V F) (priority : Option F) :
    Nat → List Text → List (Installed V F W) × Option (LayoutException V F)
  | _, [] => ([], none)
  | created, constraint :: rest =>
      match addedObjects platform context priority created constraint with
      | (added, some e) => (added, some e)
      | (added, none) =>
          let later := made context priority (created + added.length) rest
          (added ++ later.1, later.2)

variable [DecidableEq V]

def ConstraintLedger.remove (ledger : ConstraintLedger V F W) (viewKey : Text) :
    ConstraintLedger V F W :=
  let keeps : Installed V F W → Bool := fun c =>
    (subviewFor ledger.toLayoutContext viewKey).all fun subView =>
      !refersTo platform subView c.content
  { ledger with
    toLayoutContext := withoutView ledger.toLayoutContext viewKey
    permanent := ledger.permanent.filter keeps
    temporal := fun key => (ledger.temporal key).filter keeps }

/-- Constraints that a raising call added before it raised stay: no key knows of them. -/
def ConstraintLedger.perform (ledger : ConstraintLedger V F W) :
    HelperCall V F → ConstraintLedger V F W × Option (LayoutException V F)
  | .addView subView subViewKey =>
      let added := addView platform ledger.toLayoutContext subView subViewKey
      ({ ledger with toLayoutContext := added.1 }, added.2)
  | .removeViewsWithKeys viewKeys =>
      (viewKeys.foldl (ConstraintLedger.remove platform) ledger, none)
  | .setMetrics metrics => ({ ledger with metrics := metrics }, none)
  | .addConstraints constraints priority =>
      let added := made platform ledger.toLayoutContext priority ledger.created constraints
      ({ ledger with
        permanent := ledger.permanent ++ added.1
        created := ledger.created + added.1.length }, added.2)
  | .setConstraints constraints priority key =>
      let added := made platform ledger.toLayoutContext priority ledger.created constraints
      let forKey : List (Installed V F W) := if added.2.isNone then added.1 else []
      ({ ledger with
        permanent := if added.2.isNone then ledger.permanent else ledger.permanent ++ added.1
        temporal := fun other => if other = key then forKey else ledger.temporal other
        created := ledger.created + added.1.length }, added.2)

end Ledger

section Objects
variable {V F W : Type} {platform : UIKitLayout V F W}

/-- Each content becomes one object. -/
theorem length_objects {priority : Option F} {created : Nat}
    {contents : List (ConstraintContent V F W)} :
    (objects priority created contents).length = contents.length := by
  induction contents generalizing created with
  | nil => rfl
  | cons content rest ih => simp [objects, ih]

/-- New objects have consecutive identities. -/
theorem identity_objects {priority : Option F} {created : Nat}
    {contents : List (ConstraintContent V F W)} :
    (objects priority created contents).map Installed.identity =
      List.range' created contents.length := by
  induction contents generalizing created with
  | nil => rfl
  | cons content rest ih => simp [objects, ih, List.range'_succ]

/-- The objects of one text are in the order of their creation. -/
theorem identity_addedObjects {context : LayoutContext V F} {priority : Option F}
    {created : Nat} {constraint : Text} :
    (addedObjects platform context priority created constraint).1.map Installed.identity =
      List.range' created
        (addedObjects platform context priority created constraint).1.length := by
  unfold addedObjects
  split
  · rfl
  · split
    · rfl
    · split <;> simp only [identity_objects, length_objects]

/-- New objects have the next identities. -/
theorem identity_made {context : LayoutContext V F} {priority : Option F} {created : Nat}
    {constraints : List Text} :
    (made platform context priority created constraints).1.map Installed.identity =
      List.range' created (made platform context priority created constraints).1.length := by
  induction constraints generalizing created with
  | nil => rfl
  | cons constraint rest ih =>
      have hFirst := @identity_addedObjects _ _ _ platform context priority created constraint
      rw [made]
      split
      · rename_i added e hAdded
        rw [hAdded] at hFirst
        exact hFirst
      · rename_i added hAdded
        rw [hAdded] at hFirst
        simp only [List.map_append, hFirst, ih, List.length_append]
        rw [← List.range'_append_1]

/-- The loop of a call adds the objects of its texts, and changes nothing else. -/
theorem addEach_eq {priority : Option F} {constraints : List Text} {state : HelperState V F W} :
    addEach platform priority constraints state =
      (state.add (made platform state.toLayoutContext priority state.created constraints).1,
        made platform state.toLayoutContext priority state.created constraints) := by
  induction constraints generalizing state with
  | nil => simp [addEach, made, HelperState.add]
  | cons constraint rest ih =>
      rw [addEach, made, addConstraint]
      cases hAdded : addedObjects platform state.toLayoutContext priority state.created
          constraint with
      | mk added raised =>
          cases raised with
          | some e => rfl
          | none => simp [ih, HelperState.add, Nat.add_assoc]

end Objects

section Accounts
variable {V F W : Type} {platform : UIKitLayout V F W} {state : HelperState V F W}
  {ledger : ConstraintLedger V F W} {owner : Nat → Option Text}

/-- The helper's state against the ledger. Each object belongs to one key or to none, and
what a key keeps may include objects that are gone. -/
structure Accounts (state : HelperState V F W) (ledger : ConstraintLedger V F W)
    (owner : Nat → Option Text) : Prop where
  context : state.toLayoutContext = ledger.toLayoutContext
  created : state.created = ledger.created
  installed : ∀ c, c ∈ state.constraints ↔
    c ∈ ledger.permanent ∨ ∃ key, c ∈ ledger.temporal key
  stored : ∀ key, ∀ c ∈ ledger.temporal key, c ∈ state.stored key
  permanent : ∀ c ∈ ledger.permanent, c.identity < state.created ∧ owner c.identity = none
  owned : ∀ key, ∀ c ∈ state.stored key,
    c.identity < state.created ∧ owner c.identity = some key
  nodup : (state.constraints.map Installed.identity).Nodup

def ConstraintLedger.clear (ledger : ConstraintLedger V F W) (key : Text) :
    ConstraintLedger V F W :=
  { ledger with temporal := fun other => if other = key then [] else ledger.temporal other }

theorem ConstraintLedger.temporal_clear (key other : Text) :
    (ledger.clear key).temporal other = if other = key then [] else ledger.temporal other :=
  rfl

/-- Clearing a key empties its set, and no other. -/
theorem stored_clearConstraints (key other : Text) :
    (clearConstraints state key).stored other =
      if other = key then [] else state.stored other := by
  by_cases hSome : (state.stored key).length > 0
  · have hClear : (clearConstraints state key).temporalConstraints =
        setObject state.temporalConstraints key none := by
      simp only [clearConstraints, if_pos hSome]
    rw [HelperState.stored, hClear, setObject]
    split <;> rfl
  · have hNone : state.stored key = [] := List.length_eq_zero_iff.mp (by omega)
    rw [clearConstraints, if_neg hSome]
    split
    · rename_i hKey
      rw [hKey, hNone]
    · rfl

theorem constraints_clearConstraints (key : Text) :
    (clearConstraints state key).constraints = state.constraints.filter fun c =>
      (state.stored key).all fun removed => removed.identity ≠ c.identity := by
  by_cases hSome : (state.stored key).length > 0
  · simp [clearConstraints, hSome, removeConstraints]
  · have hNone : state.stored key = [] := List.length_eq_zero_iff.mp (by omega)
    simp [clearConstraints, hNone]

/-- A constraint survives unless an object of the set has its identity. -/
theorem mem_clearConstraints {key : Text} {c : Installed V F W} :
    c ∈ (clearConstraints state key).constraints ↔
      c ∈ state.constraints ∧ ∀ removed ∈ state.stored key, removed.identity ≠ c.identity := by
  simp [constraints_clearConstraints]

theorem context_clearConstraints (state : HelperState V F W) (key : Text) :
    (clearConstraints state key).toLayoutContext = state.toLayoutContext ∧
      (clearConstraints state key).created = state.created := by
  rw [clearConstraints]
  split <;> exact ⟨rfl, rfl⟩

/-- Taking away what is kept for a key takes away what the key has and nothing else. -/
theorem Accounts.clear (h : Accounts state ledger owner) (key : Text) :
    Accounts (clearConstraints state key) (ledger.clear key) owner := by
  obtain ⟨hContext, hCreated⟩ := context_clearConstraints state key
  refine ⟨hContext.trans h.context, hCreated.trans h.created, ?_, ?_, ?_, ?_, ?_⟩
  · intro c
    rw [mem_clearConstraints, h.installed]
    constructor
    · intro ⟨hInstalled, hKept⟩
      cases hInstalled with
      | inl hPermanent => exact .inl hPermanent
      | inr hTemporal =>
          obtain ⟨other, hMem⟩ := hTemporal
          have hOther : other ≠ key := by
            intro hKey
            subst hKey
            exact hKept c (h.stored other c hMem) rfl
          refine .inr ⟨other, ?_⟩
          rw [ConstraintLedger.temporal_clear, if_neg hOther]
          exact hMem
    · intro hInstalled
      cases hInstalled with
      | inl hPermanent =>
          refine ⟨.inl hPermanent, fun removed hRemoved hSame => ?_⟩
          have hOwner := (h.owned key removed hRemoved).2
          rw [hSame, (h.permanent c hPermanent).2] at hOwner
          cases hOwner
      | inr hTemporal =>
          obtain ⟨other, hMem⟩ := hTemporal
          rw [ConstraintLedger.temporal_clear] at hMem
          by_cases hKey : other = key
          · rw [if_pos hKey] at hMem
            cases hMem
          · rw [if_neg hKey] at hMem
            refine ⟨.inr ⟨other, hMem⟩, fun removed hRemoved hSame => ?_⟩
            have hOwner := (h.owned key removed hRemoved).2
            rw [hSame, (h.owned other c (h.stored other c hMem)).2] at hOwner
            exact hKey (Option.some.inj hOwner)
  · intro other c hMem
    rw [stored_clearConstraints]
    rw [ConstraintLedger.temporal_clear] at hMem
    by_cases hKey : other = key
    · rw [if_pos hKey] at hMem
      cases hMem
    · rw [if_neg hKey] at hMem ⊢
      exact h.stored other c hMem
  · intro c hMem
    rw [hCreated]
    exact h.permanent c hMem
  · intro other c hMem
    rw [stored_clearConstraints] at hMem
    by_cases hKey : other = key
    · rw [if_pos hKey] at hMem
      cases hMem
    · rw [if_neg hKey] at hMem
      rw [hCreated]
      exact h.owned other c hMem
  · rw [constraints_clearConstraints]
    exact h.nodup.sublist (List.filter_sublist.map _)

/-- Every installed object was created before. -/
theorem Accounts.identity_lt (h : Accounts state ledger owner) {c : Installed V F W}
    (hMem : c ∈ state.constraints) : c.identity < state.created := by
  cases (h.installed c).mp hMem with
  | inl hPermanent => exact (h.permanent c hPermanent).1
  | inr hTemporal =>
      obtain ⟨key, hMem⟩ := hTemporal
      exact (h.owned key c (h.stored key c hMem)).1

section New
variable {added : List (Installed V F W)}

/-- The objects are the next ones in the order of their creation. -/
def Next (state : HelperState V F W) (added : List (Installed V F W)) : Prop :=
  added.map Installed.identity = List.range' state.created added.length

theorem Next.identity (hNext : Next state added) {c : Installed V F W} (hMem : c ∈ added) :
    state.created ≤ c.identity ∧ c.identity < state.created + added.length := by
  have hRange : c.identity ∈ List.range' state.created added.length := by
    rw [← hNext]
    exact List.mem_map_of_mem hMem
  exact List.mem_range'_1.mp hRange

/-- New objects are different from the installed ones and from each other. -/
theorem Accounts.nodup_append (h : Accounts state ledger owner) (hNext : Next state added) :
    ((state.constraints ++ added).map Installed.identity).Nodup := by
  rw [List.map_append, hNext, List.nodup_append]
  refine ⟨h.nodup, List.nodup_range', ?_⟩
  intro identity hOld other hNew hSame
  obtain ⟨c, hMem, rfl⟩ := List.mem_map.mp hOld
  have hLess := h.identity_lt hMem
  have hMore := (List.mem_range'_1.mp hNew).1
  omega

def extendOwner (owner : Nat → Option Text) (created : Nat) (new : Option Text) (identity : Nat) :
    Option Text :=
  if identity < created then owner identity else new

/-- What a call without a key installs is in the account for good. -/
theorem Accounts.add_permanent (h : Accounts state ledger owner) (hNext : Next state added) :
    Accounts (state.add added)
      { ledger with
        permanent := ledger.permanent ++ added
        created := ledger.created + added.length }
      (extendOwner owner state.created none) := by
  refine ⟨h.context, congrArg (· + added.length) h.created, ?_, h.stored, ?_, ?_,
    h.nodup_append hNext⟩
  · intro c
    simp only [HelperState.add, List.mem_append, h.installed]
    exact or_right_comm
  · intro c hMem
    cases List.mem_append.mp hMem with
    | inl hOld =>
        obtain ⟨hLess, hOwner⟩ := h.permanent c hOld
        refine ⟨Nat.lt_add_right _ hLess, ?_⟩
        rw [extendOwner, if_pos hLess]
        exact hOwner
    | inr hNew =>
        obtain ⟨hMore, hLess⟩ := hNext.identity hNew
        refine ⟨hLess, ?_⟩
        rw [extendOwner, if_neg (by omega)]
  · intro key c hMem
    obtain ⟨hLess, hOwner⟩ := h.owned key c hMem
    refine ⟨Nat.lt_add_right _ hLess, ?_⟩
    rw [extendOwner, if_pos hLess]
    exact hOwner

/-- The objects become those of a key that has none. -/
theorem Accounts.add_temporal (h : Accounts state ledger owner) (hNext : Next state added)
    {key : Text} (hNone : ledger.temporal key = []) :
    Accounts
      { state.add added with
        temporalConstraints := setObject state.temporalConstraints key (some added) }
      { ledger with
        temporal := fun other => if other = key then added else ledger.temporal other
        created := ledger.created + added.length }
      (extendOwner owner state.created (some key)) := by
  have hStored : ∀ other, HelperState.stored { state.add added with
      temporalConstraints := setObject state.temporalConstraints key (some added) } other =
        if other = key then added else state.stored other := by
    intro other
    simp only [HelperState.stored, setObject]
    split <;> rfl
  refine ⟨h.context, congrArg (· + added.length) h.created, ?_, ?_, ?_, ?_,
    h.nodup_append hNext⟩
  · intro c
    simp only [HelperState.add, List.mem_append, h.installed]
    constructor
    · intro hMem
      cases hMem with
      | inl hOld =>
          cases hOld with
          | inl hPermanent => exact .inl hPermanent
          | inr hTemporal =>
              obtain ⟨other, hMem⟩ := hTemporal
              have hOther : other ≠ key := by
                intro hKey
                rw [hKey, hNone] at hMem
                cases hMem
              exact .inr ⟨other, by rw [if_neg hOther]; exact hMem⟩
      | inr hNew => exact .inr ⟨key, by rw [if_pos rfl]; exact hNew⟩
    · intro hMem
      cases hMem with
      | inl hPermanent => exact .inl (.inl hPermanent)
      | inr hTemporal =>
          obtain ⟨other, hMem⟩ := hTemporal
          split at hMem
          · exact .inr hMem
          · exact .inl (.inr ⟨other, hMem⟩)
  · intro other c hMem
    rw [hStored]
    simp only at hMem
    split at hMem
    · rename_i hKey
      rw [if_pos hKey]
      exact hMem
    · rename_i hKey
      rw [if_neg hKey]
      exact h.stored other c hMem
  · intro c hMem
    obtain ⟨hLess, hOwner⟩ := h.permanent c hMem
    refine ⟨Nat.lt_add_right _ hLess, ?_⟩
    rw [extendOwner, if_pos hLess]
    exact hOwner
  · intro other c hMem
    rw [hStored] at hMem
    split at hMem
    · rename_i hKey
      obtain ⟨hMore, hLess⟩ := hNext.identity hMem
      refine ⟨hLess, ?_⟩
      rw [extendOwner, if_neg (by omega), hKey]
    · obtain ⟨hLess, hOwner⟩ := h.owned other c hMem
      refine ⟨Nat.lt_add_right _ hLess, ?_⟩
      rw [extendOwner, if_pos hLess]
      exact hOwner

end New

/-- A call numbers its objects from the counter on. -/
theorem next_made {context : LayoutContext V F} {priority : Option F}
    {constraints : List Text} :
    Next state (made platform context priority state.created constraints).1 :=
  identity_made

/-- A new helper has installed nothing, and its account says so. -/
theorem accounts_initWithView (view : V) (inTree : V → Bool) :
    Accounts (initWithView view inTree : HelperState V F W) (newLedger view inTree)
      fun _ => none := by
  refine ⟨rfl, rfl, ?_, ?_, ?_, ?_, List.nodup_nil⟩
  · intro c
    simp [initWithView, newLedger]
  · intro key c hMem
    cases hMem
  · intro c hMem
    cases hMem
  · intro key c hMem
    cases hMem

section Calls
variable [DecidableEq V]

/-- Removing a view takes the same constraints from both. -/
theorem Accounts.remove (h : Accounts state ledger owner) (viewKey : Text) :
    Accounts (removeViewWithKey platform state viewKey) (ledger.remove platform viewKey)
      owner := by
  have hConstraints : (removeViewWithKey platform state viewKey).constraints =
      state.constraints.filter fun c => (subviewFor ledger.toLayoutContext viewKey).all
        fun subView => !refersTo platform subView c.content := by
    rw [← h.context]
    rfl
  refine ⟨?_, h.created, ?_, ?_, ?_, h.owned, ?_⟩
  · show withoutView state.toLayoutContext viewKey = withoutView ledger.toLayoutContext viewKey
    rw [h.context]
  · intro c
    simp only [hConstraints, ConstraintLedger.remove, List.mem_filter, h.installed]
    constructor
    · intro ⟨hInstalled, hKept⟩
      cases hInstalled with
      | inl hPermanent => exact .inl ⟨hPermanent, hKept⟩
      | inr hTemporal =>
          obtain ⟨key, hMem⟩ := hTemporal
          exact .inr ⟨key, hMem, hKept⟩
    · intro hInstalled
      cases hInstalled with
      | inl hPermanent => exact ⟨.inl hPermanent.1, hPermanent.2⟩
      | inr hTemporal =>
          obtain ⟨key, hMem, hKept⟩ := hTemporal
          exact ⟨.inr ⟨key, hMem⟩, hKept⟩
  · intro key c hMem
    exact h.stored key c (List.mem_filter.mp hMem).1
  · intro c hMem
    exact h.permanent c (List.mem_filter.mp hMem).1
  · rw [hConstraints]
    exact h.nodup.sublist (List.filter_sublist.map _)

/-- A set replaces the one under its key, whether it is installed whole or in part. -/
theorem Accounts.setConstraints (h : Accounts state ledger owner)
    (platform : UIKitLayout V F W) (constraints : List Text)
    (priority : Option F) (key : Text) :
    (∃ owner, Accounts (LockJaw.setConstraints platform state constraints priority key).1
      (ledger.perform platform (.setConstraints constraints priority key)).1 owner) ∧
      (LockJaw.setConstraints platform state constraints priority key).2 =
        (ledger.perform platform (.setConstraints constraints priority key)).2 := by
  have hClear := h.clear key
  obtain ⟨hContext, hCreated⟩ := context_clearConstraints state key
  have hNone : (ledger.clear key).temporal key = [] := by
    rw [ConstraintLedger.temporal_clear, if_pos rfl]
  generalize hMade : made platform ledger.toLayoutContext priority ledger.created constraints =
    added
  have hSame : made platform (clearConstraints state key).toLayoutContext priority
      (clearConstraints state key).created constraints = added := by
    rw [hContext, hCreated, h.context, h.created, hMade]
  have hNext : Next (clearConstraints state key) added.1 := by
    rw [← hSame]
    exact next_made
  simp only [LockJaw.setConstraints, addEach_eq, hSame, ConstraintLedger.perform, hMade]
  cases hRaised : added.2 with
  | none =>
      have hTemporal : (fun other => if other = key then added.1 else
          (ledger.clear key).temporal other) =
            fun other => if other = key then added.1 else ledger.temporal other := by
        funext other
        rw [ConstraintLedger.temporal_clear]
        split <;> rfl
      have hAdded := hClear.add_temporal hNext hNone
      rw [hTemporal] at hAdded
      exact ⟨⟨_, hAdded⟩, rfl⟩
  | some e => exact ⟨⟨_, hClear.add_permanent hNext⟩, rfl⟩

/-- A call does to the view what its account says, and raises what the account says. -/
theorem Accounts.perform (h : Accounts state ledger owner) (platform : UIKitLayout V F W)
    (call : HelperCall V F) :
    (∃ owner, Accounts (LockJaw.perform platform state call).1
      (ledger.perform platform call).1 owner) ∧
      (LockJaw.perform platform state call).2 = (ledger.perform platform call).2 := by
  cases call with
  | addView subView subViewKey =>
      simp only [LockJaw.perform, ConstraintLedger.perform, h.context]
      exact ⟨⟨owner, rfl, h.created, h.installed, h.stored, h.permanent, h.owned, h.nodup⟩,
        trivial⟩
  | setMetrics metrics =>
      refine ⟨⟨owner, ?_, h.created, h.installed, h.stored, h.permanent, h.owned, h.nodup⟩, rfl⟩
      simp only [LockJaw.perform, ConstraintLedger.perform, h.context]
  | removeViewsWithKeys viewKeys =>
      refine ⟨⟨owner, ?_⟩, rfl⟩
      simp only [LockJaw.perform, ConstraintLedger.perform]
      induction viewKeys generalizing state ledger with
      | nil => exact h
      | cons viewKey rest ih => exact ih (h.remove viewKey)
  | addConstraints constraints priority =>
      have hSame : made platform state.toLayoutContext priority state.created constraints =
          made platform ledger.toLayoutContext priority ledger.created constraints := by
        rw [h.context, h.created]
      simp only [LockJaw.perform, ConstraintLedger.perform, addEach_eq, ← hSame]
      exact ⟨⟨_, h.add_permanent next_made⟩, trivial⟩
  | setConstraints constraints priority key =>
      exact h.setConstraints platform constraints priority key

end Calls
end Accounts

/-- A platform without numbers that knows one format, the view 1 between the edges, and refuses
it while the view is not in the tree. -/
def edgesLayout : UIKitLayout Nat Nat Nat where
  toDecimalDigits := XtConstraint.asciiDigits
  one := 1
  zero := 0
  floatValue := fun _ => 0
  inverse := id
  negate := id
  accepts := fun _ => true
  visualFormat := fun context format =>
    if format = "H:|[v]|".toList then (context.subViews "v".toList).map fun _ => [0, 1]
    else none
  mentions := fun _ _ => true
  isLayoutGuide := fun _ => false
  acceptsSubview := fun view subView => view != subView
  acceptsPriority := fun priority => priority != 0
  refusal := fun context _ => if context.inTree 1 then none else some 0

section Runs
variable {V F W : Type} [DecidableEq V] (platform : UIKitLayout V F W)

/-- Calls one after another; a caller may go on after an exception. -/
def performAll (state : HelperState V F W) (calls : List (HelperCall V F)) :
    HelperState V F W :=
  calls.foldl (fun state call => (perform platform state call).1) state

def ConstraintLedger.performAll (ledger : ConstraintLedger V F W)
    (calls : List (HelperCall V F)) : ConstraintLedger V F W :=
  calls.foldl (fun ledger call => (ledger.perform platform call).1) ledger

variable {platform}

/-- So it is after any number of calls, those that raise among them. -/
theorem Accounts.performAll {state : HelperState V F W} {ledger : ConstraintLedger V F W}
    {owner : Nat → Option Text} (h : Accounts state ledger owner)
    (platform : UIKitLayout V F W) (calls : List (HelperCall V F)) :
    ∃ owner, Accounts (LockJaw.performAll platform state calls)
      (ledger.performAll platform calls) owner := by
  induction calls generalizing state ledger owner with
  | nil => exact ⟨owner, h⟩
  | cons call rest ih =>
      obtain ⟨⟨_, hCall⟩, _⟩ := h.perform platform call
      exact ih hCall

/-- A view that was added for two keys and removed for one is refused for the other. -/
example : (perform edgesLayout (performAll edgesLayout (initWithView 0 (· == 0))
    [.addView 1 "v".toList, .addView 1 "w".toList, .removeViewsWithKeys ["w".toList]])
      (.addConstraints ["H:|[v]|".toList] none)).2 = some (.invalidInstallation 0) := rfl

def HelperCall.removesViews : HelperCall V F → Bool
  | .removeViewsWithKeys _ => true
  | .addView .. | .setMetrics _ | .addConstraints .. | .setConstraints .. => false

/-- What is in the account for good stays until a view is removed. -/
theorem ConstraintLedger.mem_permanent_performAll {ledger : ConstraintLedger V F W}
    {c : Installed V F W} {calls : List (HelperCall V F)}
    (hCalls : ∀ call ∈ calls, call.removesViews = false)
    (hMem : c ∈ ledger.permanent) : c ∈ (ledger.performAll platform calls).permanent := by
  induction calls generalizing ledger with
  | nil => exact hMem
  | cons call rest ih =>
      refine ih (fun other hOther => hCalls other (List.mem_cons_of_mem call hOther)) ?_
      cases call with
      | addView | setMetrics => exact hMem
      | removeViewsWithKeys viewKeys =>
          exact absurd (hCalls _ List.mem_cons_self) (by simp [HelperCall.removesViews])
      | addConstraints constraints priority => exact List.mem_append_left _ hMem
      | setConstraints constraints priority key =>
          simp only [ConstraintLedger.perform]
          split
          · exact hMem
          · exact List.mem_append_left _ hMem

/-- What a raising `setConstraints` added is lost to its key: it stays through every later
call, for this key or another, until a view is removed. -/
theorem raising_set_leaks (view : V) (inTree : V → Bool) (before later : List (HelperCall V F))
    (constraints : List Text) (priority : Option F) (key : Text) (e : LayoutException V F)
    (c : Installed V F W)
    (hRaises : (perform platform (performAll platform (initWithView view inTree) before)
      (.setConstraints constraints priority key)).2 = some e)
    (hAdded : c ∈ (perform platform (performAll platform (initWithView view inTree) before)
      (.setConstraints constraints priority key)).1.constraints)
    (hNew : c ∉ (performAll platform (initWithView view inTree) before).constraints)
    (hLater : ∀ call ∈ later, call.removesViews = false) :
    c ∈ (performAll platform (perform platform
      (performAll platform (initWithView view inTree) before)
      (.setConstraints constraints priority key)).1 later).constraints := by
  obtain ⟨_, h⟩ := (accounts_initWithView view inTree).performAll platform before
  obtain ⟨⟨_, hSet⟩, hSame⟩ :=
    h.perform platform (.setConstraints constraints priority key)
  obtain ⟨_, hAll⟩ := hSet.performAll platform later
  rw [hSame] at hRaises
  refine (hAll.installed c).mpr (.inl (ConstraintLedger.mem_permanent_performAll hLater ?_))
  cases (hSet.installed c).mp hAdded with
  | inl hPermanent => exact hPermanent
  | inr hTemporal =>
      obtain ⟨other, hMem⟩ := hTemporal
      simp only [ConstraintLedger.perform] at hMem hRaises
      split at hMem
      · simp [hRaises] at hMem
      · exact absurd ((h.installed c).mpr (.inr ⟨other, hMem⟩)) hNew

end Runs

section Sample

/-- The first format of two is set, the second names an unknown view; what is set for the
key after that does not replace what the first one left. -/
theorem raising_set_leaks_edges :
    (⟨0, .inr 0, none⟩ : Installed Nat Nat Nat) ∈
      (performAll edgesLayout (perform edgesLayout
        (performAll edgesLayout (initWithView 0 (· == 0)) [.addView 1 "v".toList])
          (.setConstraints ["H:|[v]|".toList, "H:|[w]|".toList] none "edges".toList)).1
        [.setConstraints ["H:|[v]|".toList] none "edges".toList]).constraints :=
  raising_set_leaks 0 (· == 0) [.addView 1 "v".toList]
    [.setConstraints ["H:|[v]|".toList] none "edges".toList]
    ["H:|[v]|".toList, "H:|[w]|".toList] none "edges".toList (.invalidFormat "H:|[w]|".toList) _
    rfl (List.mem_cons_self) (List.not_mem_nil) (by simp [HelperCall.removesViews])

end Sample
end LockJaw
