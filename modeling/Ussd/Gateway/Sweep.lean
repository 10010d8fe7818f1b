import Ussd.Gateway.Sessions
/-!
# Sweeps

A sweep ends the sessions that have expired and removes those that ended long ago. A sweeper sweeps
at a fixed interval and once more when it is told to stop.
-/

namespace Ussd

structure SweepReport where
  expired : Nat
  purged : Nat
  deriving DecidableEq, Repr, Inhabited

variable {β : Type}

def sweep (setting : Setting) (retentionDays : Int) : Run β Fault SweepReport := do
  let expired ← expireSessions setting
  let purged ← purgeSessions setting retentionDays
  if 0 < expired ∨ 0 < purged then note (.sweepCompleted expired purged)
  return { expired := expired, purged := purged }

/-- Sweeps a number of times; a sweep that fails is only reported. -/
def sweepRepeatedly (setting : Setting) (retentionDays : Int) : Nat → Run β Fault Unit
  | 0 => return
  | times + 1 => do
    match ← attemptRun (sweep setting retentionDays) with
    | .ok _ => pure ()
    | .error fault => note (.sweepFailed fault.display)
    sweepRepeatedly setting retentionDays times

/-- How many sweeps fall into a time that begins with one. -/
def sweepCount (interval duration : Nat) : Nat := (duration + interval - 1) / interval

/-- A sweeper that is told to stop after some time, given like its interval in milliseconds. Its last
sweep decides whether it fails. -/
def runSweeper (setting : Setting) (retentionDays : Int) (interval duration : Nat) :
    Run β Fault Unit := do
  sweepRepeatedly setting retentionDays (sweepCount interval duration)
  let _ ← sweep setting retentionDays
  note .sweeperStopped

end Ussd
