/-!
# Complaints

What can be wrong with a field of an object, and which field it is.
-/

namespace NodeRelief

/-- What is wrong with one field. -/
inductive Complaint where
  | missing
  | notObject
  | notText
  | emptyText
  | notInteger
  | unreadableInteger
  | hugeInteger
  | fractionalInteger
  | notFinite
deriving DecidableEq, Repr

/-- A complaint and the path of the field it is about. -/
structure Complaint.At where
  path : List String
  complaint : Complaint
deriving DecidableEq, Repr

end NodeRelief
