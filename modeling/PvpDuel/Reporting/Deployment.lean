import PvpDuel.Gateway.Results
import PvpDuel.MatchServer.Verdict
import PvpDuel.Profiles.OncePerMatch

/-!
# Matches that report to the gateway

The match server with its matches, the calls of `RetryReport` that `reportTerminal` makes, and the
gateway. Between them are requests and responses that may be lost or late: a request arrives at any time
or never, also after its call has given up, and a call may fail at any time without an answer.

A request carries the result as the gateway decodes it, and the reporter's secret. What `http.Client` does
beyond that is left out.
-/

namespace PvpDuel.Reporting

open Gateway (Exchange Response Server)
open MatchServer (Process TerminalResult)
open Profiles (MatchResult payload)

/-- Where a call of `RetryReport` stands: about to post, at its `n`-th request, waiting for its timer, or
returned after a report that succeeded or not. -/
inductive Phase
  | posting
  | awaiting (n : Nat)
  | pausing (time : Nat)
  | returned (delivered : Bool)
deriving DecidableEq, Repr

/-- A call of `RetryReport`, with the deadline of its context. -/
structure Call where
  result : TerminalResult
  deadline : Nat
  attempt : Nat
  phase : Phase
deriving DecidableEq, Repr

/-- The request of a call, and the exchange with the gateway that it became when it arrived. -/
structure Post where
  call : Nat
  result : TerminalResult
  exchange : Option Nat
deriving DecidableEq, Repr

/-- The clock is that of the match server. -/
structure Deployment (η : Type) where
  clock : Nat
  processes : List Process
  calls : List Call
  posts : List Post
  gateway : Gateway.System η

/-- What can happen next. A call is known by its number, and so are a match and a request. -/
inductive Action
  | elapse (duration : Nat)
  | start (matchID playerA playerB : String)
  | play (process : Nat) (action : MatchServer.Match.Action)
  | post (call : Nat)
  | arrive (n : Nat)
  | answer (call : Nat)
  | fail (call : Nat)
  | wake (call : Nat)
  | cancel (call : Nat)
  | gateway (action : Gateway.Action)

/-! ### The loop of `RetryReport` -/

/-- `reportTerminal` gives the call five seconds. -/
def newCall (now : Nat) (result : TerminalResult) : Call :=
  ⟨result, now + 5000000000, 0, .posting⟩

namespace Call

/-- `Report` has returned an error: the loop ends with the context, or it sets a timer. -/
def failed (call : Call) (now : Nat) : Call :=
  if call.deadline ≤ now then { call with phase := .returned false }
  else { call with phase := .pausing (now + (call.attempt + 1) * 100000000) }

/-- The timer has fired: the next attempt, if there is one. -/
def retry (call : Call) : Call :=
  if call.attempt + 1 < 3 then { call with attempt := call.attempt + 1, phase := .posting }
  else { call with attempt := call.attempt + 1, phase := .returned false }

end Call

/-- The body of a request of `Report`, as `decodeJSON` finds it. -/
def body (result : TerminalResult) : Gateway.Body MatchResult := ⟨some (payload result), true⟩

namespace Deployment

variable {η : Type} [DecidableEq η] (server : Server η) (secret : String)

/-- The response to a request, when the gateway has written it. -/
def response (s : Deployment η) (n : Nat) : Option Response :=
  s.posts[n]?.bind fun post => post.exchange.bind fun i => s.gateway.exchanges[i]?.bind fun exchange =>
    match exchange.point with
    | .answered _ response => some response
    | _ => none

/-- `Report` returns nil for the status `200` only. -/
def answered (s : Deployment η) (call : Call) (response : Response) : Call :=
  if response.status = 200 then { call with phase := .returned true } else call.failed s.clock

/-- The call `i` takes a step of its own. -/
def move (s : Deployment η) (i : Nat) (step : Call → Option Call) : Option (Deployment η) :=
  s.calls[i]?.bind fun call => (step call).map fun call => { s with calls := s.calls.set i call }

/-- The transitions of the deployment. -/
def next (s : Deployment η) : Action → Option (Deployment η)
  | .elapse duration => some { s with clock := s.clock + duration }
  | .start matchID playerA playerB =>
      match MatchServer.startMatch matchID playerA playerB true with
      | .error _ => none
      | .ok process => some { s with processes := s.processes ++ [process] }
  | .play i action =>
      s.processes[i]?.bind fun process => (process.next action).map fun process' =>
        { s with
          processes := s.processes.set i process'
          calls := s.calls ++ (process'.reported.drop process.reported.length).map (newCall s.clock) }
  | .post i =>
      s.calls[i]?.bind fun call =>
        if call.phase = .posting then
          some { s with
            posts := s.posts ++ [⟨i, call.result, none⟩]
            calls := s.calls.set i { call with phase := .awaiting s.posts.length } }
        else
          none
  | .arrive n =>
      s.posts[n]?.bind fun post =>
        if post.exchange = none then
          (server.next s.gateway (.request (.matchResult secret (body post.result)))).map fun gateway =>
            { s with
              gateway
              posts := s.posts.set n { post with exchange := some s.gateway.exchanges.length } }
        else
          none
  | .answer i => s.move i fun call =>
      match call.phase with
      | .awaiting n => (s.response n).map (s.answered call)
      | _ => none
  | .fail i => s.move i fun call =>
      match call.phase with
      | .posting => some (call.failed s.clock)
      | .awaiting _ => some (call.failed s.clock)
      | _ => none
  | .wake i => s.move i fun call =>
      match call.phase with
      | .pausing time => if time ≤ s.clock then some call.retry else none
      | _ => none
  | .cancel i => s.move i fun call =>
      match call.phase with
      | .pausing _ =>
          if call.deadline ≤ s.clock then some { call with phase := .returned false } else none
      | _ => none
  | .gateway action => (server.next s.gateway action).map fun gateway => { s with gateway }

end Deployment

def newDeployment {η : Type} (clock : Nat) (queue : Matchmaking.Service) : Deployment η where
  clock := clock
  processes := []
  calls := []
  posts := []
  gateway := Gateway.newSystem queue

end PvpDuel.Reporting
