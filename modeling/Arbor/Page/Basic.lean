import Arbor.Forest.Basic
import Arbor.Fault
import Arbor.Number

/-!
# Pages and their pagination

A `Page` is one page of the displayed forest with its `Pagination`: the page number and size
asked for, the number of stored rows, the number of pages, and whether pages follow or precede.
Like a displayed node, a pagination read back from a cache holds whatever values the cached
document held, so its fields are JSON values.

`Pagination.compute` takes the page, the page size and the number of stored rows as values of
any kind and keeps them as given. With rows present it counts pages as the least integer not
below the quotient `total / pageSize` (`Num.div`, a float rounded once); a page size of zero is a
division by zero, and an infinite or undefined quotient has no count. With no rows (or a
negative total) there are no pages. A next page exists when `page` is below the count, a
previous one when `page` is above 1; both compare as the service's values do (`Json.relate`).
-/

set_option autoImplicit false

namespace Arbor

/-- The envelope of a page. -/
structure Pagination where
  page : Json
  pageSize : Json
  total : Json
  totalPages : Json
  hasNext : Json
  hasPrev : Json
  deriving Inhabited

/-- One page of the displayed forest. -/
structure Page where
  data : List Tree
  pagination : Pagination
  deriving Inhabited

/-- The number of pages of `total` rows, `pageSize` to a page. -/
def pageCount (pageSize total : Json) : Except Fault Int := do
  if ← Json.relate .gt total (.int 0) then (← Json.arith .div total pageSize).ceil else pure 0

/-- The pagination of page `page` of `pageSize` rows when `total` rows are stored. -/
def Pagination.compute (page pageSize total : Json) : Except Fault Pagination := do
  let pages ← pageCount pageSize total
  let hasNext ← Json.relate .lt page (.int pages)
  let hasPrev ← Json.relate .gt page (.int 1)
  pure { page, pageSize, total, totalPages := .int pages, hasNext := .bool hasNext,
         hasPrev := .bool hasPrev }

end Arbor
