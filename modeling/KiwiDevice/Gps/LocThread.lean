import KiwiDevice.Lib.RefCount
import KiwiDevice.Lib.Steps

/-!
# Location threads

The delegate of a `LocThread` is shared by the owner and the thread that it has started. Each read
or write of a member, each mutex operation and each call on the runnable is a step of one of the
two. The run begins when the thread exists, with the owner still in the constructor.
-/

namespace KiwiDevice.Gps

inductive LocThreadSide where
  | owner
  | spawned
  deriving DecidableEq, Repr

instance : Fintype LocThreadSide where
  elems := {.owner, .spawned}
  complete := by rintro ⟨⟩ <;> decide

/-- `mRunnable` tells whether the pointer is not `NULL`. -/
structure LocThreadDelegate where
  mRunnable : Bool
  mJoinable : Bool
  mMutex : Option LocThreadSide
  mRefCount : Int
  live : Bool
  deriving DecidableEq, Repr

/-- The next access in `destroy`. -/
inductive DestroyPc where
  | test
  | lock
  | read
  | write (refCount : Int)
  | unlock (callDelete : Bool)
  | delete
  deriving DecidableEq, Repr

/-- The next access of the owner: in the constructor, in `create`, in `bye`, in `stop`. -/
inductive OwnerPc where
  | setName
  | detach
  | isRunning
  | idle
  | bye
  | testRunnable
  | clearRunnable
  | testJoinable
  | clearJoinable
  | join
  | destroy (started : Bool) (pc : DestroyPc)
  | done (started : Bool)
  deriving DecidableEq, Repr

/-- The next access or call in `threadMain`. -/
inductive SpawnedPc where
  | start
  | testPrerun
  | prerun
  | testRun
  | run
  | testPostrun
  | postrun
  | clearRunnable
  | deleteRunnable
  | destroy (pc : DestroyPc)
  | exited
  deriving DecidableEq, Repr

structure LocThreadState where
  delegate : LocThreadDelegate
  runnable : Bool
  owner : OwnerPc
  spawned : SpawnedPc
  joinable : Bool
  deriving DecidableEq, Repr

/-- `more` is what `run` returns. -/
inductive LocThreadInput where
  | stop
  | release
  | owner
  | spawned (more : Bool)
  deriving DecidableEq, Repr

inductive LocThreadEvent where
  | dangling (side : LocThreadSide)
  | delegateDeleted
  | prerun
  | run
  | postrun
  | runnableDeleted
  deriving DecidableEq, Repr

namespace LocThreadDelegate

def access (d : LocThreadDelegate) (side : LocThreadSide) : List LocThreadEvent :=
  if d.live then [] else [.dangling side]

/-- One step of `destroy`, and where it goes on. -/
def destroy (d : LocThreadDelegate) (side : LocThreadSide) (pc : DestroyPc) :
    Option (LocThreadDelegate × List LocThreadEvent × Option DestroyPc) :=
  match pc with
  | .test => some (d, [], if d.mRefCount > 0 then some .lock else none)
  | .lock => if d.mMutex = none then some ({ d with mMutex := some side }, [], some .read) else none
  | .read => some (d, [], some (.write d.mRefCount))
  | .write refCount => some ({ d with mRefCount := refCount - 1 }, [], some (.unlock (refCount = 1)))
  | .unlock callDelete =>
    some ({ d with mMutex := none }, [], if callDelete then some .delete else none)
  | .delete => some ({ d with live := false }, [.delegateDeleted], none)

end LocThreadDelegate

namespace LocThreadState

/-- `pthread_create` has succeeded. -/
def init (joinable : Bool) : LocThreadState where
  delegate := ⟨true, joinable, none, 2, true⟩
  runnable := true
  owner := .setName
  spawned := .start
  joinable := joinable

def ownerStep (s : LocThreadState) : Option (LocThreadState × List LocThreadEvent) :=
  let access := s.delegate.access .owner
  match s.owner with
  | .setName => some ({ s with owner := if s.joinable then .isRunning else .detach }, access)
  | .detach => some ({ s with owner := .isRunning }, access)
  | .isRunning =>
    some ({ s with owner := if s.delegate.mRunnable then .idle else .destroy false .test }, access)
  | .idle => none
  | .bye =>
    some ({ s with owner := if s.delegate.mJoinable then .testRunnable else .destroy true .test }, access)
  | .testRunnable =>
    some ({ s with owner := if s.delegate.mRunnable then .clearRunnable else .testJoinable }, access)
  | .clearRunnable =>
    some ({ s with delegate := { s.delegate with mRunnable := false }, owner := .testJoinable }, access)
  | .testJoinable =>
    some ({ s with
      owner := if s.delegate.mJoinable then .clearJoinable else .destroy true .test }, access)
  | .clearJoinable =>
    some ({ s with delegate := { s.delegate with mJoinable := false }, owner := .join }, access)
  | .join => if s.spawned = .exited then some ({ s with owner := .destroy true .test }, access) else none
  | .destroy started pc =>
    (s.delegate.destroy .owner pc).map fun r =>
      ({ s with delegate := r.1, owner := r.2.2.elim (.done started) (.destroy started) },
        access ++ r.2.1)
  | .done _ => none

def spawnedStep (s : LocThreadState) (more : Bool) :
    Option (LocThreadState × List LocThreadEvent) :=
  let access := s.delegate.access .spawned
  match s.spawned with
  | .start =>
    some ({ s with spawned := if s.delegate.mRunnable then .testPrerun else .destroy .test }, access)
  | .testPrerun =>
    some ({ s with spawned := if s.delegate.mRunnable then .prerun else .testRun }, access)
  | .prerun => some ({ s with spawned := .testRun }, [.prerun])
  | .testRun =>
    some ({ s with spawned := if s.delegate.mRunnable then .run else .testPostrun }, access)
  | .run => some ({ s with spawned := if more then .testRun else .testPostrun }, [.run])
  | .testPostrun =>
    some ({ s with spawned := if s.delegate.mRunnable then .postrun else .clearRunnable }, access)
  | .postrun => some ({ s with spawned := .clearRunnable }, [.postrun])
  | .clearRunnable =>
    some ({ s with
      delegate := { s.delegate with mRunnable := false }
      spawned := .deleteRunnable }, access)
  | .deleteRunnable => some ({ s with runnable := false, spawned := .destroy .test }, [.runnableDeleted])
  | .destroy pc =>
    (s.delegate.destroy .spawned pc).map fun r =>
      ({ s with delegate := r.1, spawned := r.2.2.elim .exited .destroy }, access ++ r.2.1)
  | .exited => none

/-- `stop` and the destructor of a `LocThread`; `mThread` is `NULL` after either of them. -/
def step (s : LocThreadState) (i : LocThreadInput) :
    Option (LocThreadState × List LocThreadEvent) :=
  match i with
  | .stop =>
    match s.owner with
    | .idle => some ({ s with owner := .testRunnable }, [])
    | .done _ => some (s, [])
    | _ => none
  | .release =>
    match s.owner with
    | .idle => some ({ s with owner := .bye }, [])
    | .done _ => some (s, [])
    | _ => none
  | .owner => s.ownerStep
  | .spawned more => s.spawnedStep more

def Next (s : LocThreadState) (i : LocThreadInput) (o : List LocThreadEvent) (s' : LocThreadState) :
    Prop :=
  s.step i = some (s', o)

end LocThreadState

end KiwiDevice.Gps
