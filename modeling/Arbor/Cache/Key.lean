import Arbor.Json.Display

/-!
# Cache keys

A cached page is kept under the key `tree:<page>:<pageSize>`, the page and its size as they read
on their own (`Json.display`): `tree:1:10`, but `tree:1.0:True` for the float `1.0` and the
truth value `true`, which are other keys. Every key starts with `tree:`, which is how
invalidation finds the keys of the page cache among the others a shared server may hold.

A page or page size holding an integer of more than `maxIntDigits` digits has no key: writing
it is refused (`Json.shown`), and so is every read or write of the cache that asks for its key.
-/

set_option autoImplicit false

namespace Arbor

/-- The prefix shared by all page keys. -/
def keyPrefix : Text := Text.ofString "tree:"

/-- The key of page `page` of `pageSize` rows; refused when either holds an integer too long to
be written. -/
def cacheKey (page pageSize : Json) : Except Fault Text := do
  let p ← page.shown
  let s ← pageSize.shown
  pure (keyPrefix ++ p ++ Text.ofString ":" ++ s)

end Arbor
