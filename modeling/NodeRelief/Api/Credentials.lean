import NodeRelief.Fault

/-!
# Credentials

Where a client gets its access to the API from: the file or context that it is given, else the
cluster it runs in, else the default file.
-/

namespace NodeRelief

/-- A step towards access. -/
inductive CredentialStep where
  | fromFile (file context : Document)
  | fromCluster
  | fromDefaultFile
deriving DecidableEq

inductive Access where
  | explicit
  | default
deriving DecidableEq, Repr

def Access.text : Access → String
  | .explicit => "explicit"
  | .default => "default"

/-- The faults that the three steps meet. -/
structure CredentialFaults where
  file : Option Fault := none
  cluster : Option Fault := none
  defaultFile : Option Fault := none

namespace Credentials

def outcome {α : Type} (a : α) : Option Fault → Except Fault α
  | some f => .error f
  | none => .ok a

/-- The steps taken, and the access gained. Only missing credentials lead on from the cluster to the
default file. -/
def load (faults : CredentialFaults) (file context : Document) :
    Except Fault Access × List CredentialStep :=
  if file.isTruthy || context.isTruthy then
    (outcome .explicit faults.file, [.fromFile file context])
  else match faults.cluster with
    | none => (.ok .default, [.fromCluster])
    | some (.credentials _) =>
      (outcome .default faults.defaultFile, [.fromCluster, .fromDefaultFile])
    | some f => (.error f, [.fromCluster])

end Credentials

end NodeRelief
