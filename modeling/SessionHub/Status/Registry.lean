import SessionHub.Status.Entry
import SessionHub.Table

/-!
# The status registry

One entry for each session that was created or reported on. The working directory of an
entry is set when the session is created and kept by updates; a session that was never
created here has the fallback directory.
-/

namespace SessionHub

/-- The status entries of all sessions. -/
structure StatusRegistry where
  entries : Table String StatusEntry
  /-- The working directory of sessions that have no entry. -/
  fallback : String

namespace StatusRegistry

/-- The registry without entries. -/
def empty (fallback : String) : StatusRegistry :=
  ⟨.empty, fallback⟩

/-- The entry of a session. -/
def get? (registry : StatusRegistry) (session : String) : Option StatusEntry :=
  registry.entries.get? session

/-- The entry of a session that has just been created. -/
def freshEntry (directory : String) (now : UInt64) : StatusEntry where
  status := .idle
  workingDirectory := directory
  since := now

/-- Make a fresh entry for a session, in the place of any other. -/
def init (registry : StatusRegistry) (session directory : String) (now : UInt64) :
    StatusRegistry :=
  { registry with entries := registry.entries.insert session (freshEntry directory now) }

/-- The working directory of a session. -/
def directoryOf (registry : StatusRegistry) (session : String) : String :=
  match registry.get? session with
  | some entry => entry.workingDirectory
  | none => registry.fallback

/-- The entry that an update leads to. Nothing of an earlier entry but its working
directory is kept, and an exit code only with a terminal status. -/
def updatedEntry (registry : StatusRegistry) (update : StatusUpdate) (now : UInt64) :
    StatusEntry where
  status := update.status
  workingDirectory := registry.directoryOf update.sessionId
  eventId := update.eventId
  title := update.title
  exitCode := if update.status.isTerminal then update.exitCode else none
  since := now

/-- Store the entry that an update leads to. -/
def applyUpdate (registry : StatusRegistry) (update : StatusUpdate) (now : UInt64) :
    StatusRegistry :=
  { registry with
    entries := registry.entries.insert update.sessionId (registry.updatedEntry update now) }

/-- Forget a session. -/
def remove (registry : StatusRegistry) (session : String) : StatusRegistry :=
  { registry with entries := registry.entries.erase session }

theorem get?_init (registry : StatusRegistry) (session directory other : String)
    (now : UInt64) :
    (registry.init session directory now).get? other =
      if other = session then some (freshEntry directory now) else registry.get? other :=
  Table.get?_insert _ _ _ _

theorem get?_applyUpdate (registry : StatusRegistry) (update : StatusUpdate)
    (now : UInt64) (other : String) :
    (registry.applyUpdate update now).get? other =
      if other = update.sessionId then some (registry.updatedEntry update now)
      else registry.get? other :=
  Table.get?_insert _ _ _ _

theorem get?_remove (registry : StatusRegistry) (session other : String) :
    (registry.remove session).get? other =
      if other = session then none else registry.get? other :=
  Table.get?_erase _ _ _

end StatusRegistry
end SessionHub
