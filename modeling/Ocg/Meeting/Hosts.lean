import Mathlib
import Ocg.Meeting.Jobs

/-!
# The load of host users

How many meetings a host user has at an instant: the recorded ones and the live reservations whose
current time contains it. `assign_zoom_host_user` looks at a whole time range, widened on both
sides, so what it finds bounds the load at every instant of the range.
-/

namespace Ocg.Meetings

open Relational

variable {db db' : MeetingDatabase} {host : String} {t : Timestamp}

/-! ## Names of hosts -/

theorem lower_of_mem_poolHosts {users : List String} (h : host ∈ poolHosts users) :
    lower host = host := by
  obtain ⟨user, -, rfl⟩ := List.mem_map.1 (List.mem_dedup.1 h)
  exact lower_lower _

/-! ## The load at an instant -/

/-- The slot takes the host at an instant. -/
def HostSlot.Takes (host : String) (t : Timestamp) (slot : HostSlot) : Prop :=
  slot.host = host ∧ slot.startsAt ≤ t ∧ t < slot.endsAt

instance HostSlot.decidableTakes (host : String) (t : Timestamp) (slot : HostSlot) :
    Decidable (slot.Takes host t) :=
  inferInstanceAs (Decidable (_ ∧ _))

/-- The number of recorded meetings and live reservations of a host at an instant. -/
def MeetingDatabase.load (db : MeetingDatabase) (host : String) (t : Timestamp) : ℕ :=
  db.hostSlots.countP fun slot ↦ slot.Takes host t

/-- The current time of the owner contains the instant. -/
def Owner.IsAt (t : Timestamp) (o : Owner) : Prop :=
  (∃ starts ∈ o.startsAt, starts ≤ t) ∧ ∃ ends ∈ o.endsAt, t < ends

instance Owner.decidableIsAt (o : Owner) : Decidable (o.IsAt t) :=
  inferInstanceAs (Decidable ((∃ starts ∈ o.startsAt, _) ∧ ∃ ends ∈ o.endsAt, _))

/-- The recorded meeting takes the host. -/
def Meeting.Takes (db : MeetingDatabase) (host : String) (t : Timestamp) (m : Meeting) : Prop :=
  ∃ slot ∈ m.recordedSlot db, slot.Takes host t

instance Meeting.decidableTakes (m : Meeting) : Decidable (m.Takes db host t) :=
  inferInstanceAs (Decidable (∃ slot ∈ m.recordedSlot db, _))

/-- The reservation of the owner takes the host. -/
def Owner.Takes (host : String) (t : Timestamp) (o : Owner) : Prop :=
  ∃ slot ∈ o.reservedSlot, slot.Takes host t

instance Owner.decidableTakes (o : Owner) : Decidable (o.Takes host t) :=
  inferInstanceAs (Decidable (∃ slot ∈ o.reservedSlot, _))

theorem load_eq : db.load host t = db.meetings.countP (fun m ↦ m.Takes db host t)
    + db.owners.countP fun row ↦ row.2.Takes host t := by
  unfold MeetingDatabase.load MeetingDatabase.hostSlots
  rw [List.countP_append, List.countP_filterMap, List.countP_filterMap]
  congr 1
  · refine List.countP_congr fun m _ ↦ ?_
    rw [decide_eq_true_eq, Meeting.Takes]
    cases m.recordedSlot db <;> simp
  · refine List.countP_congr fun row _ ↦ ?_
    rw [decide_eq_true_eq, Owner.Takes]
    cases row.2.reservedSlot <;> simp

theorem exists_hostSlot_takes {h : Option String} {starts ends : Option Timestamp} :
    (∃ slot ∈ hostSlot h starts ends, slot.Takes host t) ↔ (∃ user ∈ h, lower user = host)
      ∧ (∃ s ∈ starts, s ≤ t) ∧ ∃ e ∈ ends, t < e := by
  unfold hostSlot
  cases h with
  | none => simp
  | some user =>
    cases starts with
    | none => simp
    | some s =>
      cases ends with
      | none => simp
      | some e => simp [HostSlot.Takes]

theorem Owner.takes_iff {o : Owner} : o.Takes host t ↔ (o.meetingProviderId = some "zoom"
    ∧ o.meetingSyncClaimedAt ≠ none ∧ o.meetingInSync = some false)
      ∧ (∃ user ∈ o.meetingProviderHostUser, lower user = host) ∧ o.IsAt t := by
  unfold Owner.Takes Owner.reservedSlot
  split
  · next hlive =>
    rw [exists_hostSlot_takes]
    exact (and_iff_right hlive).symm
  · next hlive =>
    refine iff_of_false (by simp) fun htakes ↦ hlive htakes.1

theorem Meeting.ownerColumn_eq (hwf : db.WellFormed) {m : Meeting} (hm : m ∈ db.meetings)
    (column : Owner → Option Timestamp) :
    m.ownerColumn column db = (m.owner?.bind db.owner?).bind column := by
  unfold Meeting.ownerColumn Meeting.owner?
  cases hevent : m.eventId with
  | some id =>
    rw [(hwf.oneOwner m hm).resolve_left (by simp [hevent])]
    simp
  | none => cases m.sessionId <;> simp

theorem Meeting.takes_iff (hwf : db.WellFormed) {m : Meeting} (hm : m ∈ db.meetings) :
    m.Takes db host t ↔ m.meetingProviderId = "zoom"
      ∧ (∃ user ∈ m.providerHostUserId, lower user = host)
      ∧ ∃ ref ∈ m.owner?, ∃ o, (ref, o) ∈ db.owners ∧ o.IsAt t := by
  unfold Meeting.Takes Meeting.recordedSlot
  split
  · next hzoom =>
    rw [exists_hostSlot_takes, Meeting.ownerColumn_eq hwf hm, Meeting.ownerColumn_eq hwf hm,
      and_iff_right hzoom]
    refine and_congr_right fun _ ↦ ?_
    cases href : m.owner? with
    | none => simp
    | some ref =>
      obtain ⟨o, ho⟩ := hwf.exists_owner hm href
      have hfind := hwf.owner?_eq_some.2 ho
      simp only [Option.bind_some, hfind, Option.mem_def, Option.some.injEq, exists_eq_left']
      constructor
      · exact fun hat ↦ ⟨o, ho, hat⟩
      · rintro ⟨o', ho', hat⟩
        rwa [hwf.owner_unique ho ho']
  · next hzoom => exact iff_of_false (by simp) fun htakes ↦ hzoom htakes.1

/-- **The load only drops** when every slot that is taken was taken before. -/
theorem load_mono (hwf : db.WellFormed) (hwf' : db'.WellFormed)
    (hmeetings : ∀ m' ∈ db'.meetings, m'.Takes db' host t → ∀ ref ∈ m'.owner?, ∀ o',
      (ref, o') ∈ db'.owners → o'.IsAt t →
      ∃ m ∈ db.meetings, m.meetingId = m'.meetingId ∧ ref ∈ m.owner?
        ∧ m'.meetingProviderId = m.meetingProviderId
        ∧ m'.providerHostUserId = m.providerHostUserId ∧ ∃ o, (ref, o) ∈ db.owners ∧ o.IsAt t)
    (howners : ∀ ref o', (ref, o') ∈ db'.owners → o'.Takes host t →
      ∃ o, (ref, o) ∈ db.owners ∧ o.Takes host t) : db'.load host t ≤ db.load host t := by
  rw [load_eq, load_eq]
  refine Nat.add_le_add ?_ ?_
  · refine countP_le_of_keys hwf'.meetingKeys fun m' hm' htakes ↦ ?_
    have htakes := of_decide_eq_true htakes
    obtain ⟨hzoom, hhost, ref, href, o', ho', hat⟩ := (Meeting.takes_iff hwf' hm').1 htakes
    obtain ⟨m, hm, hid, href, hprovider, hsame, hwas⟩ := hmeetings m' hm' htakes ref href o' ho' hat
    refine ⟨m, hm, hid, decide_eq_true ((Meeting.takes_iff hwf hm).2 ⟨?_, ?_, ref, href, hwas⟩)⟩
    · rw [← hprovider, hzoom]
    · rwa [← hsame]
  · refine countP_le_of_keys hwf'.ownerKeys fun row hrow htakes ↦ ?_
    obtain ⟨o, ho, hwas⟩ := howners row.1 row.2 hrow (of_decide_eq_true htakes)
    exact ⟨(row.1, o), ho, rfl, decide_eq_true hwas⟩

theorem HostSlot.Takes.overlaps {slot : HostSlot} {startsAt endsAt : Timestamp}
    (h : slot.Takes host t) (hstarts : startsAt ≤ t) (hends : t < endsAt) :
    slot.host = host ∧ slot.Overlaps startsAt endsAt := by
  obtain ⟨hhost, hslotStarts, hslotEnds⟩ := h
  refine ⟨hhost, ?_, ?_⟩
  · exact (Int.sub_lt_self _ (by decide)).trans_le hslotStarts |>.trans hends
  · exact (hstarts.trans_lt hslotEnds).trans (Int.lt_add_of_pos_right _ (by decide))

/-- The load at an instant of a time range is at most what `assign_zoom_host_user` counts for it. -/
theorem load_le_overlappingMeetings {startsAt endsAt : Timestamp} (hstarts : startsAt ≤ t)
    (hends : t < endsAt) : db.load host t ≤ db.overlappingMeetings startsAt endsAt host :=
  List.countP_mono_left fun _ _ htakes ↦
    decide_eq_true ((of_decide_eq_true htakes).overlaps hstarts hends)

end Ocg.Meetings
