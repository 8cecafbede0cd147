/-! The life of a session, and the steps by which it is told to drain. -/

namespace TiledStream

inductive Phase where
  | created
  | prefetching
  | streaming
  | draining
  | closed
  deriving DecidableEq

namespace Phase

def rank : Phase → Nat
  | .created => 0
  | .prefetching => 1
  | .streaming => 2
  | .draining => 3
  | .closed => 4

def name : Phase → String
  | .created => "Created"
  | .prefetching => "Prefetching"
  | .streaming => "Streaming"
  | .draining => "Draining"
  | .closed => "Closed"

def isLive (phase : Phase) : Bool := decide (phase.rank < Phase.draining.rank)

end Phase

/-- How far a thread is with telling the session to drain: it looks at the phase, swaps it for
draining until that succeeds or is done already, and cancels the streams. -/
inductive Drain where
  | look
  | swap (seen : Phase)
  | cancel
  deriving DecidableEq

namespace Drain

def afterSeeing (phase : Phase) : Drain := if phase.isLive then .swap phase else .cancel

def step (phase : Phase) : Drain → Option Drain × Phase × Bool
  | .look => (some (afterSeeing phase), phase, false)
  | .swap seen =>
    if phase = seen then (some .cancel, .draining, false)
    else (some (afterSeeing phase), phase, false)
  | .cancel => (none, phase, true)

end Drain

end TiledStream
