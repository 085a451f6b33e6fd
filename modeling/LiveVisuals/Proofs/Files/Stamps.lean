import LiveVisuals.Shader.Registry

/-!
# What a scan sees of modification times

A walk passes over hidden entries and notes the latest modification time of everything else,
directories included. That time is part of the signature of a scan, so a tree with a later one
than any tree before it has a signature of its own.

Main definitions:

- {lit}`Files.Node.stamps`: the modification times in a tree that walks meet.
- {lit}`Files.Node.latest`: the latest of them.

Main results:

- Theorem {lit}`Walk.latest_visitAll`: a walk finds the latest modification time.
- Theorem {lit}`Scan.signature_of_ofNode`: it stands in the signature of a scan.
-/

namespace LiveVisuals

namespace Files.Node

mutual

/-- The modification times of a node and of what it holds, hidden entries passed over. -/
def stamps : Node → List Nat
  | .file _ time => [time]
  | .directory entries time => time :: entryStamps entries

/-- The modification times of directory entries, hidden ones passed over. -/
def entryStamps : List (String × Node) → List Nat
  | [] => []
  | (name, n) :: rest =>
      if Walk.isHidden name then entryStamps rest else stamps n ++ entryStamps rest

end

/-- The latest of some modification times; none is earlier than any. -/
def latestOf (times : List Nat) : Nat := times.foldr max 0

@[simp] theorem latestOf_cons (time : Nat) (times : List Nat) :
    latestOf (time :: times) = max time (latestOf times) :=
  rfl

@[simp] theorem latestOf_append (times times' : List Nat) :
    latestOf (times ++ times') = max (latestOf times) (latestOf times') := by
  induction times with
  | nil => simp [latestOf]
  | cons time times ih => simp [ih, Nat.max_assoc]

/-- The latest modification time in a tree. -/
def latest (n : Node) : Nat := latestOf n.stamps

end Files.Node

namespace Walk

open Files

mutual

/-- A walk finds the latest modification time of an entry. -/
theorem latest_visit (w : Walk) (directory : List String) (name : String) (n : Node) :
    (visit w directory name n).latest = max w.latest n.latest := by
  cases n with
  | file content time => simp [visit, Node.latest, Node.stamps, Node.latestOf]
  | directory entries time =>
      rw [visit, latest_visitAll, meet, Node.latest, Node.stamps, Node.latestOf_cons,
        Nat.max_assoc]

/-- A walk finds the latest modification time of directory entries. -/
theorem latest_visitAll (w : Walk) (directory : List String) (entries : List (String × Node)) :
    (visitAll w directory entries).latest =
      max w.latest (Node.latestOf (Node.entryStamps entries)) := by
  cases entries with
  | nil => simp [visitAll, Node.entryStamps, Node.latestOf]
  | cons entry rest =>
      obtain ⟨name, n⟩ := entry
      by_cases hidden : isHidden name
      · rw [visitAll, if_pos hidden, latest_visitAll, Node.entryStamps, if_pos hidden]
      · rw [visitAll, if_neg hidden, latest_visitAll, latest_visit, Node.entryStamps,
          if_neg hidden, Node.latestOf_append, Node.latest, Nat.max_assoc]

end

/-- A walk through a directory finds the latest modification time in it. -/
theorem latest_directory (entries : List (String × Node)) (time : Nat) :
    (visitAll (start.meet time) [] entries).latest = (Node.directory entries time).latest := by
  simp [latest_visitAll, meet, start, Node.latest, Node.stamps]

end Walk

/-- The latest modification time that a signature tells of. -/
def Signature.latest : Signature → Nat
  | .missing => 0
  | .tree _ latest => latest

/-- The signature of a scan tells the latest modification time in the tree. -/
theorem Scan.signature_of_ofNode {root : String} {n : Files.Node} {s : Scan}
    (h : ofNode root (.ok n) = .ok s) : s.signature.latest = n.latest := by
  cases n with
  | file content time => cases h
  | directory entries time =>
      cases h
      exact Walk.latest_directory entries time

end LiveVisuals
