import Arbor.Config.Address
import Arbor.Json.Display
import Arbor.Number

/-!
# Service configuration

`Settings` are the service's configuration values. They are normally read from the environment,
but can be set to any value, so each is kept as the JSON value it was given. `Settings.validate`
checks them in a fixed order, the first broken rule deciding the fault:

1. the environment is `development`, `staging` or `production`;
2. each size is positive, in the order pool size, cache time-to-live, cache size, default page
   size, largest page size, longest label;
3. the default page size does not exceed the largest page size;
4. in production the database is neither SQLite (a scheme starting with `sqlite`) nor on the
   local host (`localhost` or `127.0.0.1`). Its address must be a text: any other value is taken
   for bytes, and refused — one that counts as false (`Json.isFalsy`) when its scheme is compared
   with `sqlite`, any other when it is to be decoded.

Its answer is whether the environment is production.
-/

set_option autoImplicit false

namespace Arbor

/-- The configuration values. -/
structure Settings where
  appEnv : Json
  databaseUrl : Json
  dbPoolSize : Json
  cacheTtlSeconds : Json
  cacheMaxSize : Json
  defaultPageSize : Json
  maxPageSize : Json
  maxLabelLength : Json
  deriving Inhabited

namespace Settings

/-- The configuration the service runs with. -/
def standard : Settings :=
  { appEnv := .text "development", databaseUrl := .text "sqlite://", dbPoolSize := .int 10,
    cacheTtlSeconds := .int 300, cacheMaxSize := .int 1000, defaultPageSize := .int 10,
    maxPageSize := .int 100, maxLabelLength := .int 100 }

/-- Set the value named `name`; a name that is none of the settings is a missing key. -/
def set (s : Settings) (name : Text) (v : Json) : Except Fault Settings :=
  match name.toString with
  | "APP_ENV" => .ok { s with appEnv := v }
  | "DATABASE_URL" => .ok { s with databaseUrl := v }
  | "DB_POOL_SIZE" => .ok { s with dbPoolSize := v }
  | "CACHE_TTL_SECONDS" => .ok { s with cacheTtlSeconds := v }
  | "CACHE_MAX_SIZE" => .ok { s with cacheMaxSize := v }
  | "DEFAULT_PAGE_SIZE" => .ok { s with defaultPageSize := v }
  | "MAX_PAGE_SIZE" => .ok { s with maxPageSize := v }
  | "MAX_LABEL_LENGTH" => .ok { s with maxLabelLength := v }
  | _ => .error (.missingKey name)

/-- The environments the service knows. -/
def environments : List String := ["development", "staging", "production"]

/-- The sizes in the order they are checked, with their names. -/
def sizes (s : Settings) : List (String × Json) :=
  [("DB_POOL_SIZE", s.dbPoolSize), ("CACHE_TTL_SECONDS", s.cacheTtlSeconds),
   ("CACHE_MAX_SIZE", s.cacheMaxSize), ("DEFAULT_PAGE_SIZE", s.defaultPageSize),
   ("MAX_PAGE_SIZE", s.maxPageSize), ("MAX_LABEL_LENGTH", s.maxLabelLength)]

/-- A size that is a number; a value of another kind cannot be compared. -/
def sizeNum (op : String) (v : Json) : Except Fault Num :=
  match Num.ofJson? v with
  | some n => .ok n
  | none => .error (.notComparable op v.kindName "int")

/-- Check that every size is positive. -/
def checkSizes : List (String × Json) → Except Fault Unit
  | [] => .ok ()
  | (name, v) :: rest => do
    let n ← sizeNum "<=" v
    if (Num.int 0).ge n then
      throw (.configuration (Text.ofString (name ++ " must be positive")))
    checkSizes rest

/-- Check the configuration; the answer is whether it is a production one. -/
def validate (s : Settings) : Except Fault Bool := do
  match s.appEnv with
  | .arr _ => throw (.unhashable "list")
  | .obj _ => throw (.unhashable "dict")
  | _ => pure ()
  let env := match s.appEnv with
    | .str t => some t.toString
    | _ => none
  if !(env.map environments.contains).getD false then
    throw (.configuration (Text.ofString "unknown APP_ENV '" ++ (← s.appEnv.shown) ++
      Text.ofString "'"))
  checkSizes s.sizes
  let defaultSize ← sizeNum ">" s.defaultPageSize
  let maxSize ← sizeNum ">" s.maxPageSize
  if maxSize.lt defaultSize then
    throw (.configuration (Text.ofString "DEFAULT_PAGE_SIZE exceeds MAX_PAGE_SIZE"))
  let production := env == some "production"
  if production then
    let url ← match s.databaseUrl with
      | .str t => pure t
      | v => throw (if v.isFalsy then .bytesAddress else .noAttribute v.kindName "decode")
    let address ← Address.split url
    if (Text.mk address.scheme).startsWith (Text.ofString "sqlite") then
      throw (.configuration (Text.ofString "SQLite is not allowed in production"))
    match address.host? with
    | some h =>
      if h == (Text.ofString "localhost").points || h == (Text.ofString "127.0.0.1").points then
        throw (.configuration (Text.ofString "localhost database is not allowed in production"))
    | none => pure ()
  pure production

end Settings

end Arbor
