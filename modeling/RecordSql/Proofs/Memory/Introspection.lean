import RecordSql.Proofs.Memory.Catalog
import RecordSql.Proofs.Memory.Table

namespace RecordSql

def blogTables : MemoryDatabase := { tables := [MemoryTable.users, MemoryTable.posts] }

end RecordSql
