import PatternScan.Engine.Scripted

namespace PatternScan

inductive Backend where
  | arena (engine : Arena)
  | scripted (engine : Scripted)

namespace Backend

instance : Engine Backend where
  compile
    | .arena a, pattern => (a.compile pattern).map id .arena
    | .scripted s, pattern => (s.compile pattern).map id .scripted
  findBest
    | .arena a, handles, text, start => (a.findBest handles text start).map id .arena
    | .scripted s, handles, text, start => (s.findBest handles text start).map id .scripted
  dispose
    | .arena a, handles => (a.dispose handles).map id .arena
    | .scripted s, handles => (s.dispose handles).map id .scripted
  lastError
    | .arena a => Engine.lastError a
    | .scripted s => Engine.lastError s
  liveCount
    | .arena a => Engine.liveCount a
    | .scripted s => Engine.liveCount s

/-- Queues more items of a script; an arena follows none. -/
def extend (plan : Plan) : Backend → Backend
  | .arena a => .arena a
  | .scripted s => .scripted (s.extend plan)

end Backend
end PatternScan
