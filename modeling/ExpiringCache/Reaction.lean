import ExpiringCache.Handler

/-!
# Reactions

Ready-made handlers for caches of text: what a handler may do with the pair it
is told of, apart from being on record as having been run.
-/

namespace ExpiringCache

inductive Reaction where
  /-- Nothing more. -/
  | ignore
  /-- Fails. -/
  | fail
  /-- Notes the number of entries and the value now stored under the key. -/
  | observe
  /-- Stores the pair again. -/
  | restore
  /-- Removes a key and notes whether it was present. -/
  | remove (key : String)
  /-- Stores the value under a longer key while the key is short. -/
  | extend
  /-- Closes the cache. -/
  | close
  deriving DecidableEq, Repr

namespace Reaction

/-- Keys of fewer bytes are extended. -/
def extendLimit : Nat := 4

/--
How deeply these handlers nest at most: only an extended key is new to the
cache, and every extension makes the key longer.
-/
def depth : Nat := extendLimit + 1

def script (reaction : Reaction) (key value : String) : Script String String Reaction :=
  match reaction with
  | .ignore => .done
  | .fail => .fail
  | .observe =>
      .call .count fun
        | .number count =>
            .call (.get key) fun
              | .value found => .note (.observed count found) .done
              | _ => .done
        | _ => .done
  | .restore => .call (.set key value .inherited) fun _ => .done
  | .remove other =>
      .call (.remove other) fun
        | .flag present => .note (.removed present) .done
        | _ => .done
  | .extend =>
      if key.utf8ByteSize < extendLimit then
        .call (.set (key ++ "+") value .inherited) fun _ => .done
      else .done
  | .close => .call .close fun _ => .done

end Reaction

end ExpiringCache
