/-!
# Notices

What a client reports about its own work: a level, the part that speaks, a fixed
wording, and the error or the reason behind it.
-/

set_option autoImplicit false

namespace AmqpClient

inductive NoticeLevel where
  | warning
  | error
  deriving DecidableEq, Repr

/-- The part of the client that a notice comes from. -/
inductive NoticeSource where
  | topology
  | supervisor
  | publisher
  | consumer
  | dispatcher
  | trace
  deriving DecidableEq, Repr

structure Notice where
  level : NoticeLevel
  source : NoticeSource
  message : String
  error : Option String := none
  reason : Option String := none
  deriving DecidableEq, Repr

end AmqpClient
