import HelpForge.Lib.RelyGuarantee

set_option autoImplicit false

/-!
# Leases

Whoever has created the entry holds it while it lasts, but anybody may delete it.
-/

namespace Lib

structure Lease (σ : Type) where
  there : σ → Bool
  now : σ → Nat
  ttl : Nat
  lasts : 0 < ttl

namespace Lease

variable {κ σ ε α : Type} [DecidableEq κ] (lease : Lease σ)

def Creates (deed : Deed κ σ) : Prop :=
  lease.there deed.found = false ∧ lease.there deed.left = true

def Deletes (deed : Deed κ σ) : Prop :=
  lease.there deed.found = true ∧ lease.there deed.left = false

instance (deed : Deed κ σ) : Decidable (lease.Creates deed) := inferInstanceAs (Decidable (_ ∧ _))

instance (deed : Deed κ σ) : Decidable (lease.Deletes deed) := inferInstanceAs (Decidable (_ ∧ _))

/-- Who has created the last entry, and when, if it has not been deleted. -/
def entry : List (Deed κ σ) → Option (κ × Nat)
  | [] => none
  | deed :: earlier =>
    if lease.Creates deed then some (deed.call, lease.now deed.found)
    else if lease.Deletes deed then none
    else entry earlier

def heldSince (call : κ) : List (Deed κ σ) → Option Nat
  | [] => none
  | deed :: earlier =>
    if deed.call ≠ call then heldSince call earlier
    else if lease.Creates deed then some (lease.now deed.found)
    else if lease.Deletes deed then none
    else heldSince call earlier

/-- A call deletes the entry only that it has created. -/
def DeletesOwn (earlier : List (Deed κ σ)) (deed : Deed κ σ) : Prop :=
  lease.Deletes deed → (lease.entry earlier).map Prod.fst = some deed.call

/-- Nobody creates an entry while the holder has one that lasts. -/
def Respects (holder : κ) (earlier : List (Deed κ σ)) (deed : Deed κ σ) : Prop :=
  lease.Creates deed →
    ∀ since ∈ lease.heldSince holder earlier, since + lease.ttl ≤ lease.now deed.found

def InTime (earlier : List (Deed κ σ)) (deed : Deed κ σ) : Prop :=
  lease.Deletes deed →
    ∃ since ∈ lease.heldSince deed.call earlier, lease.now deed.found < since + lease.ttl

instance (earlier : List (Deed κ σ)) (deed : Deed κ σ) : Decidable (lease.DeletesOwn earlier deed) :=
  inferInstanceAs (Decidable (_ → _))

instance (holder : κ) (earlier : List (Deed κ σ)) (deed : Deed κ σ) :
    Decidable (lease.Respects holder earlier deed) :=
  inferInstanceAs (Decidable (_ → ∀ since ∈ _, _))

instance (earlier : List (Deed κ σ)) (deed : Deed κ σ) : Decidable (lease.InTime earlier deed) :=
  inferInstanceAs (Decidable (_ → ∃ since ∈ _, _))

/-- From outside an entry goes when its time is over, and nothing else happens to it. -/
structure Passes (before after : Recorded κ σ) : Prop where
  deeds : after.deeds = before.deeds
  later : lease.now before.state ≤ lease.now after.state
  there : lease.there after.state =
    (lease.there before.state && (lease.entry before.deeds).any fun entry =>
      decide (lease.now after.state < entry.2 + lease.ttl))

/-- The entry is there if it lasts, and it is in the hands of those that hold it in time. -/
structure Sound (recorded : Recorded κ σ) : Prop where
  there : lease.there recorded.state =
    (lease.entry recorded.deeds).any fun entry =>
      decide (lease.now recorded.state < entry.2 + lease.ttl)
  own : EachDeed lease.InTime recorded.deeds → ∀ holder since,
    lease.heldSince holder recorded.deeds = some since →
      lease.now recorded.state < since + lease.ttl →
      lease.entry recorded.deeds = some (holder, since)
  alike : EachDeed lease.DeletesOwn recorded.deeds ∧
    (∀ holder, EachDeed (lease.Respects holder) recorded.deeds) ↔
      EachDeed lease.InTime recorded.deeds

variable {lease} {recorded : Recorded κ σ} {call : κ} {left : σ}

theorem Sound.lasting (sound : lease.Sound recorded) (there : lease.there recorded.state = true) :
    ∃ holder since, lease.entry recorded.deeds = some (holder, since) ∧
      lease.now recorded.state < since + lease.ttl := by
  rw [sound.there] at there
  cases entry : lease.entry recorded.deeds with
  | none => simp [entry] at there
  | some held => exact ⟨held.1, held.2, rfl, by simpa [entry] using there⟩

theorem heldSince_of_entry {deeds : List (Deed κ σ)} {holder : κ} {since : Nat}
    (entry : lease.entry deeds = some (holder, since)) :
    lease.heldSince holder deeds = some since := by
  induction deeds with
  | nil => cases entry
  | cons deed earlier ih =>
    unfold Lease.entry at entry
    unfold heldSince
    by_cases creates : lease.Creates deed
    · rw [if_pos creates] at entry
      cases entry
      simp [creates]
    · rw [if_neg creates] at entry
      by_cases deletes : lease.Deletes deed
      · rw [if_pos deletes] at entry
        cases entry
      · rw [if_neg deletes] at entry
        simp [creates, deletes, ih entry]

omit [DecidableEq κ] in
theorem not_deletes_of_creates {deed : Deed κ σ} (creates : lease.Creates deed) :
    ¬lease.Deletes deed := by
  intro deletes
  have free := creates.1
  rw [deletes.1] at free
  cases free

section Sound

variable (sound : lease.Sound recorded)

include sound

theorem Sound.created (creates : lease.Creates { call, found := recorded.state, left })
    (steady : lease.now left = lease.now recorded.state) :
    lease.Sound (recorded.add call left) := by
  have no := not_deletes_of_creates creates
  have entry : lease.entry (recorded.add call left).deeds =
      some (call, lease.now recorded.state) := if_pos creates
  -- Nobody holds an entry that lasts, as it would be there.
  have ended (inTime : EachDeed lease.InTime recorded.deeds) (holder : κ) (since : Nat)
      (held : lease.heldSince holder recorded.deeds = some since) :
      since + lease.ttl ≤ lease.now recorded.state := by
    by_contra lasts
    have owned := sound.own inTime holder since held (Nat.lt_of_not_le lasts)
    have there := sound.there
    rw [owned, creates.1] at there
    simp [Nat.lt_of_not_le lasts] at there
  constructor
  · rw [entry]
    have lasts := lease.lasts
    simp [Recorded.add, steady, creates.2, lasts]
  · intro inTime holder since held lasts
    rw [entry]
    by_cases same : call = holder
    · subst same
      have now : lease.heldSince call (recorded.add call left).deeds =
          some (lease.now recorded.state) := by
        simp [Recorded.add, heldSince, creates]
      rw [now] at held
      rw [Option.some.inj held]
    · have before : lease.heldSince holder recorded.deeds = some since := by
        simpa [Recorded.add, heldSince, same] using held
      have expired := ended inTime.2 holder since before
      simp only [Recorded.add, steady] at lasts
      omega
  · constructor
    · rintro ⟨owns, respects⟩
      exact ⟨fun deletes => absurd deletes no,
        sound.alike.mp ⟨owns.2, fun holder => (respects holder).2⟩⟩
    · intro inTime
      obtain ⟨owns, respects⟩ := sound.alike.mpr inTime.2
      exact ⟨⟨fun deletes => absurd deletes no, owns⟩,
        fun holder => ⟨fun _ => ended inTime.2 holder, respects holder⟩⟩

theorem Sound.deleted (deletes : lease.Deletes { call, found := recorded.state, left })
    (steady : lease.now left = lease.now recorded.state) :
    lease.Sound (recorded.add call left) := by
  have no : ¬lease.Creates { call, found := recorded.state, left } :=
    fun creates => not_deletes_of_creates creates deletes
  have entry : lease.entry (recorded.add call left).deeds = none := by
    simp [Recorded.add, Lease.entry, no, deletes]
  constructor
  · rw [entry]
    exact deletes.2
  · intro inTime holder since held lasts
    obtain ⟨began, own, early⟩ := inTime.1 deletes
    have mine := sound.own inTime.2 call began own early
    by_cases same : call = holder
    · subst same
      simp [Recorded.add, heldSince, no, deletes] at held
    · have before : lease.heldSince holder recorded.deeds = some since := by
        simpa [Recorded.add, heldSince, same] using held
      have theirs := sound.own inTime.2 holder since before (steady ▸ lasts)
      rw [mine] at theirs
      exact absurd (congrArg Prod.fst (Option.some.inj theirs)) same
  · constructor
    · rintro ⟨owns, respects⟩
      refine ⟨fun _ => ?_, sound.alike.mp ⟨owns.2, fun holder => (respects holder).2⟩⟩
      obtain ⟨holder, since, entry, lasts⟩ := sound.lasting deletes.1
      have mine := owns.1 deletes
      rw [entry] at mine
      have same : holder = call := Option.some.inj mine
      exact ⟨since, heldSince_of_entry (same ▸ entry), lasts⟩
    · intro inTime
      obtain ⟨owns, respects⟩ := sound.alike.mpr inTime.2
      obtain ⟨since, held, lasts⟩ := inTime.1 deletes
      refine ⟨⟨fun _ => ?_, owns⟩, fun holder => ⟨fun creates => absurd creates no, respects holder⟩⟩
      rw [sound.own inTime.2 call since held lasts]
      rfl

theorem Sound.untouched (creates : ¬lease.Creates { call, found := recorded.state, left })
    (deletes : ¬lease.Deletes { call, found := recorded.state, left })
    (steady : lease.now left = lease.now recorded.state) :
    lease.Sound (recorded.add call left) := by
  have there : lease.there left = lease.there recorded.state := by
    unfold Creates at creates
    unfold Deletes at deletes
    cases found : lease.there recorded.state <;> cases reached : lease.there left <;>
      simp [found, reached] at creates deletes ⊢
  have entry : lease.entry (recorded.add call left).deeds = lease.entry recorded.deeds := by
    simp [Recorded.add, Lease.entry, creates, deletes]
  have held (holder : κ) : lease.heldSince holder (recorded.add call left).deeds =
      lease.heldSince holder recorded.deeds := by
    simp [Recorded.add, heldSince, creates, deletes]
  constructor
  · rw [entry]
    simp only [Recorded.add, steady, there]
    exact sound.there
  · intro inTime holder since holds lasts
    rw [held] at holds
    rw [entry]
    exact sound.own inTime.2 holder since holds (steady ▸ lasts)
  · constructor
    · rintro ⟨owns, respects⟩
      exact ⟨fun deleted => absurd deleted deletes,
        sound.alike.mp ⟨owns.2, fun holder => (respects holder).2⟩⟩
    · intro inTime
      obtain ⟨owns, respects⟩ := sound.alike.mpr inTime.2
      exact ⟨⟨fun deleted => absurd deleted deletes, owns⟩,
        fun holder => ⟨fun created => absurd created creates, respects holder⟩⟩

theorem Sound.add (call : κ) (steady : lease.now left = lease.now recorded.state) :
    lease.Sound (recorded.add call left) := by
  by_cases creates : lease.Creates { call, found := recorded.state, left }
  · exact sound.created creates steady
  · by_cases deletes : lease.Deletes { call, found := recorded.state, left }
    · exact sound.deleted deletes steady
    · exact sound.untouched creates deletes steady

theorem Sound.passed {after : Recorded κ σ} (passes : lease.Passes recorded after) :
    lease.Sound after := by
  have later := passes.later
  constructor
  · rw [passes.there, passes.deeds, sound.there]
    cases entry : lease.entry recorded.deeds with
    | none => rfl
    | some held =>
      by_cases lasts : lease.now after.state < held.2 + lease.ttl
      · have before : lease.now recorded.state < held.2 + lease.ttl := Nat.lt_of_le_of_lt later lasts
        simp [lasts, before]
      · simp [lasts]
  · rw [passes.deeds]
    intro inTime holder since held lasts
    exact sound.own inTime holder since held (Nat.lt_of_le_of_lt later lasts)
  · rw [passes.deeds]
    exact sound.alike

end Sound

/-- In every run of calls that leave the time alone, each call deletes its own entry only, and
nobody creates one while another lasts, if and only if each call deletes in time. -/
theorem deletes_own_iff (lease : Lease σ) {start : κ → Program σ ε α}
    (steady : ∀ call, (start call).Each fun change state =>
      lease.now (change state) = lease.now state)
    {moves : Recorded κ σ → Recorded κ σ → Prop}
    (passes : ∀ before after, moves before after → lease.Passes before after)
    {state : σ} (free : lease.there state = false)
    {final : Pool κ (Recorded κ σ) (Program (Recorded κ σ) ε α)}
    (run : Pool.Run (Pool.recordingWith start moves) Pool.anyStatement (Pool.idle { state }) final) :
    EachDeed lease.DeletesOwn final.state.deeds ∧
        (∀ holder, EachDeed (lease.Respects holder) final.state.deeds) ↔
      EachDeed lease.InTime final.state.deeds := by
  have initial : lease.Sound ({ state } : Recorded κ σ) :=
    { there := free
      own := fun _ _ _ held => by cases held
      alike := ⟨fun _ => trivial, fun _ => ⟨trivial, fun _ => trivial⟩⟩ }
  have sound : lease.Sound final.state :=
    Pool.Run.recorded_invariant (fun state left => lease.now left = lease.now state) steady
      (fun _ call _ sound same => sound.add call same)
      (fun _ _ sound moved => sound.passed (passes _ _ moved)) initial run
  exact sound.alike

end Lease

end Lib
