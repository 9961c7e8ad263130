namespace VectorCommitment

inductive ErrorKind where
  | vectorCommitment
  | invalidInput
  | capacityExceeded
  | invalidScalar
  | parameterMismatch
  | serialization
deriving DecidableEq

namespace ErrorKind

def name : ErrorKind → String
  | vectorCommitment => "VectorCommitmentError"
  | invalidInput => "InvalidInput"
  | capacityExceeded => "CapacityExceeded"
  | invalidScalar => "InvalidScalar"
  | parameterMismatch => "ParameterMismatch"
  | serialization => "SerializationError"

def all : List ErrorKind :=
  [vectorCommitment, invalidInput, capacityExceeded, invalidScalar, parameterMismatch,
   serialization]

def lineage : ErrorKind → List ErrorKind
  | vectorCommitment => [vectorCommitment]
  | invalidInput => [invalidInput, vectorCommitment]
  | capacityExceeded => [capacityExceeded, invalidInput, vectorCommitment]
  | invalidScalar => [invalidScalar, invalidInput, vectorCommitment]
  | parameterMismatch => [parameterMismatch, vectorCommitment]
  | serialization => [serialization, vectorCommitment]

def general : List String := ["ValueError", "Exception", "BaseException", "object"]

def ancestry (kind : ErrorKind) : List String := kind.lineage.map name ++ general

end ErrorKind

end VectorCommitment
