import SqlTutor.Json.Basic

/-!
Descriptions of the sample tables, and the tables worth a look in each module.
-/
namespace SqlTutor.Course

structure ColumnDoc where
  name : String
  sqlType : String
  note : String
deriving DecidableEq

structure TableDoc where
  name : String
  description : String
  columns : List ColumnDoc
  /-- Foreign keys, from the key to the column that refers to it. -/
  relationships : List String
deriving DecidableEq

namespace TableDoc

def users : TableDoc where
  name := "users"
  description := "User accounts"
  columns :=
    [⟨"id", "INT", "Primary key"⟩, ⟨"name", "TEXT", ""⟩, ⟨"email", "TEXT", "Unique"⟩,
     ⟨"role", "TEXT", "admin, user, moderator"⟩, ⟨"created_at", "DATE", ""⟩]
  relationships := []

def posts : TableDoc where
  name := "posts"
  description := "Blog posts"
  columns :=
    [⟨"id", "INT", "Primary key"⟩, ⟨"user_id", "INT", "FK → users.id"⟩, ⟨"title", "TEXT", ""⟩,
     ⟨"content", "TEXT", ""⟩, ⟨"published", "BOOL", "true/false"⟩, ⟨"created_at", "DATE", ""⟩]
  relationships := ["users.id → posts.user_id"]

def comments : TableDoc where
  name := "comments"
  description := "Comments on posts"
  columns :=
    [⟨"id", "INT", "Primary key"⟩, ⟨"post_id", "INT", "FK → posts.id"⟩,
     ⟨"user_id", "INT", "FK → users.id"⟩, ⟨"text", "TEXT", ""⟩, ⟨"created_at", "DATE", ""⟩]
  relationships := ["posts.id → comments.post_id", "users.id → comments.user_id"]

def orders : TableDoc where
  name := "orders"
  description := "Purchase orders"
  columns :=
    [⟨"id", "INT", "Primary key"⟩, ⟨"user_id", "INT", "FK → users.id"⟩,
     ⟨"total", "DECIMAL", "Order total"⟩, ⟨"status", "TEXT", "pending, completed"⟩,
     ⟨"created_at", "DATE", ""⟩]
  relationships := ["users.id → orders.user_id"]

def all : List TableDoc := [users, posts, comments, orders]

def find? (name : String) : Option TableDoc := all.find? fun doc => doc.name == name

def toJson (doc : TableDoc) : Json :=
  .object
    [("name", .string doc.name), ("description", .string doc.description),
     ("columns", .array (doc.columns.map fun c =>
       .object [("name", .string c.name), ("sql_type", .string c.sqlType),
         ("note", .string c.note)])),
     ("relationships", .array (doc.relationships.map .string))]

end TableDoc

/-- Modules and the tables that their exercises are about. -/
def moduleTableHints : List (String × List String) :=
  [("data-flow-basics", ["users"]), ("crud-concepts", ["users", "posts"]),
   ("where-filtering", ["posts", "users"]), ("join-flow", ["users", "posts", "comments"]),
   ("aggregation", ["posts", "comments"]), ("pg-types", ["users"]),
   ("returning-clause", ["users"]), ("cte-flow", ["users"]), ("upsert", ["users"]),
   ("transactions", ["orders"]), ("supabase-architecture", ["users"]), ("rls-concept", ["posts"]),
   ("client-patterns", ["posts"])]

/-- No tables for a module without hints. -/
def moduleTables (moduleId : String) : List String := (moduleTableHints.lookup moduleId).getD []

end SqlTutor.Course
