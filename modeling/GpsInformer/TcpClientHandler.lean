import GpsInformer.StdString

/-!
# `TcpClientHandler` (TcpClientHandler.h)

What a `TcpClient` and a `SslClient` report to their owner.
-/

namespace GpsInformer

/-- The error values the clients tell apart; success is the absence of one. -/
inductive ErrorCode where
  | operationAborted
  | eof
  | badDescriptor
  | other (value : Int)
  deriving DecidableEq, Repr

/-- `TcpClientHandler::Reason`. -/
inductive Reason where
  | closedByUser
  | closedByPeer
  deriving DecidableEq, Repr

/-- The four virtual functions of `TcpClientHandler`, with their arguments. -/
inductive Notification where
  | connect
  | disconnect (reason : Reason)
  | error (code : ErrorCode)
  | receivedData (data : Str)
  deriving DecidableEq, Repr

end GpsInformer
