/-
**Ignore tokens.**

A token excludes a path when the path holds the token and a `/` behind it, ends in `/` and the
token, or is the token. The test is on the text of the whole path, so a token may match the end of a
longer directory name.

* `Ignore.excludes`: some token of a list excludes the path;
* `Ignore.merge`: the default tokens and then the given ones, without repetitions.
-/

import Retarget.Segments

namespace Retarget.Ignore

/-- Whether one token excludes a path. -/
def tokenExcludes (token path : List Char) : Bool :=
  hasStretch ('/' :: token ++ ['/']) path || hasStretch (token ++ ['/']) path ||
    ('/' :: token).isSuffixOf path || path == token

/-- Whether some token excludes a path. -/
def excludes (tokens : List String) (path : List Char) : Bool :=
  tokens.any fun token => tokenExcludes token.toList path

/-- The tokens of every run. -/
def defaultTokens : List String := ["node_modules", "dist", "build", "out"]

/-- Adds a token at the end, unless it is empty or there already. -/
def add (tokens : List String) (token : String) : List String :=
  if token = "" ∨ token ∈ tokens then tokens else tokens ++ [token]

/-- The default tokens and then the given ones in their order, each once and none empty. -/
def merge (extra : List String) : List String := extra.foldl add defaultTokens

end Retarget.Ignore
