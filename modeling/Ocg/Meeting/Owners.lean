import Ocg.Meeting.System

/-!
# Owners of meetings

Both owner tables as one keyed table, and the keys that every operation keeps: identifiers are
unique and already issued, sessions and meetings refer to rows that exist, and an owner that asks
for a meeting names the provider.
-/

namespace Ocg.Meetings

open Relational

variable {db db' : MeetingDatabase}

/-! ## The keys -/

structure MeetingDatabase.WellFormed (db : MeetingDatabase) : Prop where
  eventKeys : (db.events.map Event.eventId).Nodup
  sessionKeys : (db.sessions.map Session.sessionId).Nodup
  meetingKeys : (db.meetings.map Meeting.meetingId).Nodup
  eventIssued : ∀ id ∈ db.events.map Event.eventId, id < db.nextUuid
  sessionIssued : ∀ id ∈ db.sessions.map Session.sessionId, id < db.nextUuid
  meetingIssued : ∀ id ∈ db.meetings.map Meeting.meetingId, id < db.nextUuid
  sessionEvent : ∀ id ∈ db.sessions.map Session.eventId, id ∈ db.events.map Event.eventId
  meetingEvent : ∀ m ∈ db.meetings, ∀ id ∈ m.eventId, id ∈ db.events.map Event.eventId
  meetingSession : ∀ m ∈ db.meetings, ∀ id ∈ m.sessionId, id ∈ db.sessions.map Session.sessionId
  oneOwner : ∀ m ∈ db.meetings, m.eventId = none ∨ m.sessionId = none
  oneMeeting : ∀ m ∈ db.meetings, ∀ m' ∈ db.meetings, ∀ ref ∈ m.owner?, ref ∈ m'.owner? → m = m'
  provider : ∀ row ∈ db.owners, row.2.meetingRequested = some true →
    row.2.meetingProviderId = some "zoom"

/-! ## Both tables as one -/

theorem mem_owners {row : OwnerRef × Owner} : row ∈ db.owners ↔
    (∃ e ∈ db.events, row = (.event e.eventId, e.toOwner))
      ∨ ∃ s ∈ db.sessions, row = (.session s.sessionId, s.toOwner) := by
  unfold MeetingDatabase.owners
  rw [List.mem_append, List.mem_map, List.mem_map]
  constructor
  · rintro (⟨e, he, rfl⟩ | ⟨s, hs, rfl⟩)
    · exact .inl ⟨e, he, rfl⟩
    · exact .inr ⟨s, hs, rfl⟩
  · rintro (⟨e, he, rfl⟩ | ⟨s, hs, rfl⟩)
    · exact .inl ⟨e, he, rfl⟩
    · exact .inr ⟨s, hs, rfl⟩

theorem Event.mem_owners {e : Event} (he : e ∈ db.events) :
    (.event e.eventId, e.toOwner) ∈ db.owners :=
  Meetings.mem_owners.2 (.inl ⟨e, he, rfl⟩)

theorem Session.mem_owners {s : Session} (hs : s ∈ db.sessions) :
    (.session s.sessionId, s.toOwner) ∈ db.owners :=
  Meetings.mem_owners.2 (.inr ⟨s, hs, rfl⟩)

theorem event_mem_owners {id : Uuid} {o : Owner} :
    (.event id, o) ∈ db.owners ↔ ∃ e ∈ db.events, e.eventId = id ∧ e.toOwner = o := by
  rw [Meetings.mem_owners]
  simp [eq_comm]

theorem session_mem_owners {id : Uuid} {o : Owner} :
    (.session id, o) ∈ db.owners ↔ ∃ s ∈ db.sessions, s.sessionId = id ∧ s.toOwner = o := by
  rw [Meetings.mem_owners]
  simp [eq_comm]

theorem map_fst_owners : db.owners.map Prod.fst
    = (db.events.map Event.eventId).map .event
      ++ (db.sessions.map Session.sessionId).map .session := by
  unfold MeetingDatabase.owners
  rw [List.map_append, List.map_map, List.map_map, List.map_map, List.map_map]
  rfl

namespace MeetingDatabase.WellFormed

variable (h : db.WellFormed)
include h

theorem ownerKeys : (db.owners.map Prod.fst).Nodup := by
  rw [map_fst_owners, List.nodup_append]
  refine ⟨h.eventKeys.map fun _ _ heq ↦ OwnerRef.event.inj heq,
    h.sessionKeys.map fun _ _ heq ↦ OwnerRef.session.inj heq, ?_⟩
  rintro _ hevent _ hsession rfl
  obtain ⟨_, -, rfl⟩ := List.mem_map.1 hevent
  simp at hsession

theorem owner?_eq_some {ref : OwnerRef} {o : Owner} :
    db.owner? ref = some o ↔ (ref, o) ∈ db.owners := by
  unfold MeetingDatabase.owner?
  constructor
  · intro hfind
    obtain ⟨⟨ref', o'⟩, hrow, rfl⟩ := Option.map_eq_some_iff.1 hfind
    obtain ⟨hmem, rfl⟩ := (find?_key_eq_some h.ownerKeys).1 hrow
    exact hmem
  · intro hmem
    rw [(find?_key_eq_some h.ownerKeys).2 ⟨hmem, rfl⟩]
    rfl

theorem owner_unique {ref : OwnerRef} {o o' : Owner} (ho : (ref, o) ∈ db.owners)
    (ho' : (ref, o') ∈ db.owners) : o = o' :=
  congrArg Prod.snd (eq_of_key_eq h.ownerKeys ho ho' rfl)

theorem event?_eq_some {id : Uuid} {e : Event} :
    db.event? id = some e ↔ e ∈ db.events ∧ e.eventId = id :=
  find?_key_eq_some h.eventKeys

theorem session?_eq_some {id : Uuid} {s : Session} :
    db.session? id = some s ↔ s ∈ db.sessions ∧ s.sessionId = id :=
  find?_key_eq_some h.sessionKeys

theorem exists_eventOf {ref : OwnerRef} {o : Owner} (ho : (ref, o) ∈ db.owners) :
    ∃ e ∈ db.events, db.eventOf ref = some e := by
  rcases mem_owners.1 ho with ⟨e, he, heq⟩ | ⟨s, hs, heq⟩
  · obtain ⟨rfl, -⟩ := Prod.mk.inj heq
    exact ⟨e, he, h.event?_eq_some.2 ⟨he, rfl⟩⟩
  · obtain ⟨rfl, -⟩ := Prod.mk.inj heq
    obtain ⟨e, he, hid⟩ := List.mem_map.1 (h.sessionEvent _ (List.mem_map_of_mem hs))
    refine ⟨e, he, ?_⟩
    rw [MeetingDatabase.eventOf, h.session?_eq_some.2 ⟨hs, rfl⟩]
    exact h.event?_eq_some.2 ⟨he, hid⟩

theorem exists_syncInputs {ref : OwnerRef} {o : Owner} (ho : (ref, o) ∈ db.owners) :
    ∃ inputs, db.syncInputs ref = some inputs := by
  rcases mem_owners.1 ho with ⟨e, he, heq⟩ | ⟨s, hs, heq⟩
  · obtain ⟨rfl, -⟩ := Prod.mk.inj heq
    exact ⟨.event e.syncInputs, by
      rw [MeetingDatabase.syncInputs, h.event?_eq_some.2 ⟨he, rfl⟩]
      rfl⟩
  · obtain ⟨rfl, -⟩ := Prod.mk.inj heq
    obtain ⟨e, he, hid⟩ := List.mem_map.1 (h.sessionEvent _ (List.mem_map_of_mem hs))
    refine ⟨.session (s.syncInputs e), ?_⟩
    rw [MeetingDatabase.syncInputs, h.session?_eq_some.2 ⟨hs, rfl⟩]
    change (db.event? s.eventId).map _ = _
    rw [h.event?_eq_some.2 ⟨he, hid⟩]
    rfl

theorem exists_owner {m : Meeting} {ref : OwnerRef} (hm : m ∈ db.meetings) (href : ref ∈ m.owner?) :
    ∃ o, (ref, o) ∈ db.owners := by
  unfold Meeting.owner? at href
  cases hevent : m.eventId with
  | some id =>
    obtain ⟨e, he, rfl⟩ := List.mem_map.1 (h.meetingEvent m hm id hevent)
    simp only [hevent, Option.map_some, Option.some_or, Option.mem_def, Option.some.injEq] at href
    exact ⟨e.toOwner, href ▸ Event.mem_owners he⟩
  | none =>
    simp only [hevent, Option.map_none, Option.none_or, Option.mem_def,
      Option.map_eq_some_iff] at href
    obtain ⟨id, hid, rfl⟩ := href
    obtain ⟨s, hs, rfl⟩ := List.mem_map.1 (h.meetingSession m hm id hid)
    exact ⟨s.toOwner, Session.mem_owners hs⟩

end MeetingDatabase.WellFormed

/-- A state with the same keys is well-formed, when its owners still name the provider. -/
theorem MeetingDatabase.WellFormed.of_keys (h : db.WellFormed)
    (hevents : db'.events.map Event.eventId = db.events.map Event.eventId)
    (hsessions : db'.sessions.map Session.sessionId = db.sessions.map Session.sessionId)
    (hsessionEvents : db'.sessions.map Session.eventId = db.sessions.map Session.eventId)
    (hmeetings : db'.meetings = db.meetings) (hnext : db'.nextUuid = db.nextUuid)
    (hprovider : ∀ row ∈ db'.owners, row.2.meetingRequested = some true →
      row.2.meetingProviderId = some "zoom") : db'.WellFormed where
  eventKeys := hevents ▸ h.eventKeys
  sessionKeys := hsessions ▸ h.sessionKeys
  meetingKeys := hmeetings ▸ h.meetingKeys
  eventIssued := hnext ▸ hevents ▸ h.eventIssued
  sessionIssued := hnext ▸ hsessions ▸ h.sessionIssued
  meetingIssued := hnext ▸ hmeetings ▸ h.meetingIssued
  sessionEvent := hevents ▸ hsessionEvents ▸ h.sessionEvent
  meetingEvent := hevents ▸ hmeetings ▸ h.meetingEvent
  meetingSession := hsessions ▸ hmeetings ▸ h.meetingSession
  oneOwner := hmeetings ▸ h.oneOwner
  oneMeeting := hmeetings ▸ h.oneMeeting
  provider := hprovider

/-! ## Updating one owner -/

section UpdateOwner

variable {ref : OwnerRef} {selected : Owner → Prop} [DecidablePred selected] {f : Owner → Owner}

theorem owners_updateOwner : (db.updateOwner ref selected f).owners
    = updateWhere (fun row ↦ row.1 = ref ∧ selected row.2) (fun row ↦ (row.1, f row.2))
      db.owners := by
  unfold MeetingDatabase.owners MeetingDatabase.updateOwner updateWhere
  rw [List.map_append, List.map_map, List.map_map, List.map_map, List.map_map]
  congr 1
  · refine List.map_congr_left fun e _ ↦ ?_
    by_cases he : OwnerRef.event e.eventId = ref ∧ selected e.toOwner
    · simp [he]
    · simp [he]
  · refine List.map_congr_left fun s _ ↦ ?_
    by_cases hs : OwnerRef.session s.sessionId = ref ∧ selected s.toOwner
    · simp [hs]
    · simp [hs]

theorem mem_owners_updateOwner {r : OwnerRef} {o' : Owner} :
    (r, o') ∈ (db.updateOwner ref selected f).owners ↔
      ∃ o, (r, o) ∈ db.owners ∧ o' = if r = ref ∧ selected o then f o else o := by
  rw [owners_updateOwner, mem_updateWhere]
  constructor
  · rintro (⟨⟨r', o⟩, hrow, hsel, heq⟩ | ⟨hrow, hsel⟩)
    · obtain ⟨rfl, rfl⟩ := Prod.mk.inj heq
      exact ⟨o, hrow, (if_pos hsel).symm⟩
    · exact ⟨o', hrow, (if_neg hsel).symm⟩
  · rintro ⟨o, hrow, rfl⟩
    by_cases hsel : r = ref ∧ selected o
    · rw [if_pos hsel]
      exact .inl ⟨(r, o), hrow, hsel, rfl⟩
    · rw [if_neg hsel]
      exact .inr ⟨hrow, hsel⟩

theorem MeetingDatabase.WellFormed.owners_updateOwner_eq (h : db.WellFormed) {o : Owner}
    (ho : (ref, o) ∈ db.owners) (hsel : selected o) :
    (db.updateOwner ref selected f).owners = replaceRow Prod.fst (ref, f o) db.owners := by
  rw [owners_updateOwner]
  refine List.map_congr_left fun row hrow ↦ ?_
  by_cases href : row.1 = ref
  · obtain rfl : row = (ref, o) := eq_of_key_eq h.ownerKeys hrow ho href
    rw [if_pos ⟨rfl, hsel⟩, if_pos rfl]
  · rw [if_neg fun hrow ↦ href hrow.1, if_neg href]

@[simp] theorem map_eventId_updateOwner :
    (db.updateOwner ref selected f).events.map Event.eventId = db.events.map Event.eventId := by
  apply map_updateWhere
  exact fun _ ↦ rfl

@[simp] theorem map_sessionId_updateOwner : (db.updateOwner ref selected f).sessions.map
    Session.sessionId = db.sessions.map Session.sessionId := by
  apply map_updateWhere
  exact fun _ ↦ rfl

@[simp] theorem map_sessionEvent_updateOwner : (db.updateOwner ref selected f).sessions.map
    Session.eventId = db.sessions.map Session.eventId := by
  apply map_updateWhere
  exact fun _ ↦ rfl

theorem MeetingDatabase.WellFormed.updateOwner (h : db.WellFormed)
    (hf : ∀ o, (f o).meetingRequested = o.meetingRequested
      ∧ (f o).meetingProviderId = o.meetingProviderId) :
    (db.updateOwner ref selected f).WellFormed := by
  refine h.of_keys map_eventId_updateOwner map_sessionId_updateOwner map_sessionEvent_updateOwner
    rfl rfl ?_
  rintro ⟨r, o'⟩ hrow hrequested
  obtain ⟨o, ho, rfl⟩ := mem_owners_updateOwner.1 hrow
  have := h.provider _ ho
  split at hrequested
  · next hsel =>
    rw [(hf o).1] at hrequested
    simpa [hsel, (hf o).2] using this hrequested
  · next hsel => simpa [hsel] using this hrequested

/-! ### The event of an owner -/

@[simp] theorem eventOf_event (id : Uuid) : db.eventOf (.event id) = db.event? id := rfl

@[simp] theorem eventOf_session (id : Uuid) :
    db.eventOf (.session id) = (db.session? id).bind fun s ↦ db.event? s.eventId := rfl

theorem event?_updateOwner (id : Uuid) : (db.updateOwner ref selected f).event? id
    = (db.event? id).map fun e ↦
      if .event e.eventId = ref ∧ selected e.toOwner then
        { e with toOwner := f e.toOwner } else e := by
  apply find?_updateWhere
  exact fun _ ↦ rfl

theorem session?_updateOwner (id : Uuid) : (db.updateOwner ref selected f).session? id
    = (db.session? id).map fun s ↦
      if .session s.sessionId = ref ∧ selected s.toOwner then { s with toOwner := f s.toOwner }
      else s := by
  apply find?_updateWhere
  exact fun _ ↦ rfl

/-- The owner's event is live. -/
def MeetingDatabase.IsLive (db : MeetingDatabase) (ref : OwnerRef) : Prop :=
  ∃ e ∈ db.eventOf ref, e.IsLive

instance MeetingDatabase.decidableIsLive (db : MeetingDatabase) (ref : OwnerRef) :
    Decidable (db.IsLive ref) :=
  inferInstanceAs (Decidable (∃ e ∈ db.eventOf ref, _))

theorem isLive_updateOwner {r : OwnerRef} :
    (db.updateOwner ref selected f).IsLive r ↔ db.IsLive r := by
  have hevent : ∀ id, (∃ e ∈ (db.updateOwner ref selected f).event? id, e.IsLive)
      ↔ ∃ e ∈ db.event? id, e.IsLive := fun id ↦ by
    rw [event?_updateOwner]
    cases db.event? id with
    | none => simp
    | some e =>
      by_cases he : OwnerRef.event e.eventId = ref ∧ selected e.toOwner
      · simp [he, Event.IsLive]
      · simp [he]
  cases r with
  | event id => exact hevent id
  | session id =>
    rw [MeetingDatabase.IsLive, MeetingDatabase.IsLive, eventOf_session, eventOf_session,
      session?_updateOwner]
    cases db.session? id with
    | none => simp
    | some s =>
      have hsame : (if OwnerRef.session s.sessionId = ref ∧ selected s.toOwner
          then { s with toOwner := f s.toOwner } else s).eventId = s.eventId := by
        split
        · rfl
        · rfl
      simp only [Option.map_some, Option.bind_some, hsame]
      exact hevent s.eventId

end UpdateOwner

end Ocg.Meetings
