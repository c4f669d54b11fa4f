import Ocg.Relational.Locking
import Ocg.Relational.Overlay
import Ocg.Relational.Run
import Ocg.Schema.Rows

/-!
# Groups and their parents

A group may have a parent group. The trigger `check_group_parent_relationship` locks a new parent
and reads the children of the group that gets it; `delete_group` deletes a group and then unlinks
its children. Transactions run at the same time, each on a connection of its own. Every statement
reads what is committed when it starts, with the writes of its own transaction over it, and row
locks are held until the transaction ends. A statement that waits for a row goes on with the row as
it is when the lock is granted, so that it is one step, taken then; a step stands for one statement,
or for the part of one between two locks.

All locks that these statements take on one row conflict. What a function checks in other tables,
such as permissions and payments, may end it by a rollback at any time.
-/

namespace Ocg.Groups

open Relational

/-! ## Rows -/

/-- `group`. -/
structure Group where
  groupId : Uuid
  active : Bool
  communityId : Uuid
  deleted : Bool
  parentGroupId : Option Uuid
  deriving DecidableEq, Repr

/-! ## Connections -/

/-- What a connection does next. -/
inductive Stage
  /-- Between two calls. -/
  | ready
  /-- `update_group`, before it locks the group. -/
  | lockGroup (communityId groupId : Uuid) (parentGroupIdPresent : Bool)
    (parentGroupId : Option Uuid)
  /-- `update_group`, before its update. -/
  | updateGroup (communityId groupId : Uuid) (parentGroupIdPresent : Bool)
    (parentGroupId : Option Uuid)
  /-- The trigger on a row that is inserted or updated, before it locks the parent. -/
  | checkParent (old : Option Group) (new : Group)
  /-- The trigger, before it looks for children. -/
  | checkChildren (old : Option Group) (new : Group)
  /-- `activate_group` and `deactivate_group`. -/
  | setActive (communityId groupId : Uuid) (active : Bool)
  /-- `delete_group`. -/
  | deleteGroup (communityId groupId : Uuid)
  /-- `delete_group`, before its second update. -/
  | findChildren (communityId groupId : Uuid)
  /-- The second update of `delete_group`, with the rows that it still has to visit. -/
  | unlinkChildren (communityId groupId : Uuid) (children : List Uuid)
  deriving DecidableEq, Repr

/-- A transaction: its next statement, the rows it has locked, its writes with the last one first,
and the locks from before the block that inserts a group, which a unique violation goes back to. -/
structure Connection where
  stage : Stage
  locked : List Uuid
  writes : List Group
  savepoint : List Uuid
  deriving DecidableEq, Repr

def Connection.idle : Connection where
  stage := .ready
  locked := []
  writes := []
  savepoint := []

/-- The committed groups, and the connections. -/
structure State (τ : Type) where
  groups : List Group
  connection : τ → Connection

/-- Why a statement does not complete. -/
inductive Interrupt
  | waits
  | collides
  | raises (err : DbError)
  deriving DecidableEq, Repr

section Statements

variable {τ : Type}

/-- What the statements of a connection read. -/
def State.view (s : State τ) (t : τ) : List Group :=
  overlay Group.groupId (s.connection t).writes s.groups

def State.group? (s : State τ) (t : τ) (groupId : Uuid) : Option Group :=
  lookup Group.groupId (s.view t) groupId

/-- `where group_id = … and community_id = … and deleted = false`. -/
def State.current? (s : State τ) (t : τ) (communityId groupId : Uuid) : Option Group :=
  (s.group? t groupId).filter fun g ↦ g.communityId = communityId ∧ g.deleted = false

def State.held (s : State τ) (t : τ) : List Uuid := (s.connection t).locked

def groupNotFound : Interrupt := .raises (.raised "group not found or inactive")

/-! ## The trigger -/

/-- `check_group_parent_relationship` before its first statement: the parent to validate, if any. -/
def parentToValidate (old : Option Group) (new : Group) : Except Interrupt (Option Uuid) :=
  match new.parentGroupId with
  | none => .ok none
  | some parent => do
    require (parent ≠ new.groupId) (.raises (.raised "group cannot be its own parent"))
    -- existing links are preserved on unrelated saves
    if old.bind Group.parentGroupId = some parent then .ok none else .ok (some parent)

def validateParent (parent new : Group) : Except Interrupt Unit := do
  require (parent.communityId = new.communityId)
    (.raises (.raised "parent group must belong to the same community"))
  require (parent.deleted = false) (.raises (.raised "parent group cannot be deleted"))
  require (parent.active = true) (.raises (.raised "parent group must be active"))
  require (parent.parentGroupId = none) (.raises (.raised "parent group cannot be a subgroup"))

/-- `child.parent_group_id = new.group_id and child.deleted = false`, for another group. -/
def Group.IsChildOf (child new : Group) : Prop :=
  child.parentGroupId = some new.groupId ∧ child.deleted = false ∧ child.groupId ≠ new.groupId

instance (new : Group) : DecidablePred fun child : Group ↦ child.IsChildOf new := fun child ↦
  inferInstanceAs (Decidable (child.parentGroupId = some new.groupId ∧ child.deleted = false
    ∧ child.groupId ≠ new.groupId))

/-! ## Statements -/

variable [Fintype τ] [DecidableEq τ]

/-- The lock on a row, which the connection may already hold. -/
def lockRow (s : State τ) (t : τ) (groupId : Uuid) : Except Interrupt (List Uuid) := do
  require (Grantable (· = ·) s.held t groupId) .waits
  .ok (groupId :: s.held t)

/-- The row that passed the trigger is written. An inserted row must have a new key, and an insert
waits for another one of its key. -/
def writeRow (s : State τ) (t : τ) (old : Option Group) (new : Group) :
    Except Interrupt Connection :=
  match old with
  | some _ => .ok { s.connection t with
      stage := .ready
      writes := new :: (s.connection t).writes }
  | none => do
    let locked ← lockRow s t new.groupId
    require (s.group? t new.groupId = none) .collides
    .ok { s.connection t with
      stage := .ready
      locked := locked
      writes := new :: (s.connection t).writes }

/-- The next statement of a connection. -/
def statement (s : State τ) (t : τ) : Except Interrupt Connection :=
  let conn := s.connection t
  match conn.stage with
  | .ready => .error .waits
  | .lockGroup communityId groupId present parent =>
    match s.current? t communityId groupId with
    | none => .ok { conn with stage := .updateGroup communityId groupId present parent }
    | some _ => do
      let locked ← lockRow s t groupId
      .ok { conn with
        stage := .updateGroup communityId groupId present parent
        locked := locked }
  | .updateGroup communityId groupId present parent =>
    match s.current? t communityId groupId with
    | none => .error groupNotFound
    | some old => do
      let locked ← lockRow s t groupId
      let new := { old with parentGroupId := if present then parent else old.parentGroupId }
      .ok { conn with
        stage := .checkParent (some old) new
        locked := locked }
  | .checkParent old new => do
    match ← parentToValidate old new with
    | none => writeRow s t old new
    | some parentGroupId =>
      match s.group? t parentGroupId with
      | none => .error (.raises (.raised "parent group not found"))
      | some parent => do
        let locked ← lockRow s t parentGroupId
        validateParent parent new
        .ok { conn with
          stage := .checkChildren old new
          locked := locked }
  | .checkChildren old new => do
    require (∀ child ∈ s.view t, ¬ child.IsChildOf new)
      (.raises (.raised "group with subgroups cannot have a parent"))
    writeRow s t old new
  | .setActive communityId groupId active =>
    match s.current? t communityId groupId with
    | none => .error groupNotFound
    | some old => do
      let locked ← lockRow s t groupId
      .ok { conn with
        stage := .ready
        locked := locked
        writes := { old with active := active } :: conn.writes }
  | .deleteGroup communityId groupId =>
    match s.current? t communityId groupId with
    | none => .error groupNotFound
    | some old => do
      let locked ← lockRow s t groupId
      -- the trigger returns at once, since the group has no parent then
      .ok { conn with
        stage := .findChildren communityId groupId
        locked := locked
        writes := { old with active := false, deleted := true, parentGroupId := none }
          :: conn.writes }
  | .findChildren communityId groupId =>
    let children := (s.view t).filter fun g ↦
      g.communityId = communityId ∧ g.deleted = false ∧ g.parentGroupId = some groupId
    .ok { conn with stage := .unlinkChildren communityId groupId (children.map Group.groupId) }
  | .unlinkChildren _ _ [] => .ok { conn with stage := .ready }
  | .unlinkChildren communityId groupId (child :: children) =>
    -- a row that has changed since the statement started is looked at again
    match (s.current? t communityId child).filter fun g ↦ g.parentGroupId = some groupId with
    | none => .ok { conn with stage := .unlinkChildren communityId groupId children }
    | some old => do
      let locked ← lockRow s t child
      .ok { conn with
        stage := .unlinkChildren communityId groupId children
        locked := locked
        writes := { old with parentGroupId := none } :: conn.writes }

/-! ## Runs -/

/-- A call of a database function. The identifier of an added group is its default. -/
inductive Call
  | addGroup (groupId communityId : Uuid) (parentGroupId : Option Uuid)
  | updateGroup (communityId groupId : Uuid) (parentGroupIdPresent : Bool)
    (parentGroupId : Option Uuid)
  | activateGroup (communityId groupId : Uuid)
  | deactivateGroup (communityId groupId : Uuid)
  | deleteGroup (communityId groupId : Uuid)
  deriving DecidableEq, Repr

/-- Where a call starts. -/
def Call.stage : Call → Stage
  | .addGroup groupId communityId parentGroupId =>
    .checkParent none
      { groupId := groupId
        active := true
        communityId := communityId
        deleted := false
        parentGroupId := parentGroupId }
  | .updateGroup communityId groupId present parent => .lockGroup communityId groupId present parent
  | .activateGroup communityId groupId => .setActive communityId groupId true
  | .deactivateGroup communityId groupId => .setActive communityId groupId false
  | .deleteGroup communityId groupId => .deleteGroup communityId groupId

/-- What happens on a connection. -/
inductive Action
  | call (request : Call)
  | advance
  /-- The insert met a unique value, and its block starts over with another identifier. -/
  | retry (groupId : Uuid)
  | commit
  | rollback
  deriving DecidableEq, Repr

def State.connect (s : State τ) (t : τ) (conn : Connection) : State τ :=
  { s with connection := Function.update s.connection t conn }

def Action.run (t : τ) (action : Action) (s : State τ) : Except Interrupt (State τ) :=
  let conn := s.connection t
  match action with
  | .call request => do
    require (conn.stage = .ready) .waits
    .ok (s.connect t { conn with
      stage := request.stage
      savepoint := conn.locked })
  | .advance =>
    match statement s t with
    | .ok conn' => .ok (s.connect t conn')
    | .error (.raises _) => .ok (s.connect t .idle)
    | .error err => .error err
  | .retry groupId =>
    match conn.stage with
    | .checkParent none new | .checkChildren none new =>
      .ok (s.connect t { conn with
        stage := .checkParent none { new with groupId := groupId }
        locked := conn.savepoint })
    | _ => .error .waits
  | .commit => do
    require (conn.stage = .ready) .waits
    .ok ({ s with groups := s.view t }.connect t .idle)
  | .rollback => .ok (s.connect t .idle)

/-- A step of one of the connections. -/
def Step (s s' : State τ) : Prop := ∃ t action, Action.run t action s = .ok s'

/-- Before there were parents. -/
structure Init (s : State τ) : Prop where
  groupId_nodup : (s.groups.map Group.groupId).Nodup
  no_parents : ∀ g ∈ s.groups, g.parentGroupId = none
  idle : ∀ t, s.connection t = .idle

/-- The states that the connections may reach. -/
def State.Reached (s : State τ) : Prop :=
  Reachable (fun _ ↦ Step) (fun _ _ ↦ True) Init () s

end Statements

end Ocg.Groups
