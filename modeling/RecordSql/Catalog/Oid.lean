import RecordSql.Server.Row

namespace RecordSql.Oid

def bool : Oid := 16
def bytea : Oid := 17
def char : Oid := 18
def name : Oid := 19
def int8 : Oid := 20
def int2 : Oid := 21
def int2vector : Oid := 22
def int4 : Oid := 23
def text : Oid := 25
def oid : Oid := 26
def oidvector : Oid := 30
def json : Oid := 114
def xml : Oid := 142
def point : Oid := 600
def lseg : Oid := 601
def path : Oid := 602
def box : Oid := 603
def polygon : Oid := 604
def line : Oid := 628
def cidr : Oid := 650
def float4 : Oid := 700
def float8 : Oid := 701
def unknown : Oid := 705
def circle : Oid := 718
def macaddr8 : Oid := 774
def money : Oid := 790
def macaddr : Oid := 829
def inet : Oid := 869
def bpchar : Oid := 1042
def varchar : Oid := 1043
def date : Oid := 1082
def time : Oid := 1083
def timestamp : Oid := 1114
def timestamptz : Oid := 1184
def interval : Oid := 1186
def timetz : Oid := 1266
def bit : Oid := 1560
def varbit : Oid := 1562
def numeric : Oid := 1700
def uuid : Oid := 2950
def tsvector : Oid := 3614
def tsquery : Oid := 3615
def jsonb : Oid := 3802
def int4range : Oid := 3904
def numrange : Oid := 3906
def tsrange : Oid := 3908
def tstzrange : Oid := 3910
def daterange : Oid := 3912
def int8range : Oid := 3926

def anyType : Oid := 2276
def anyarray : Oid := 2277
def anyelement : Oid := 2283
def anyenum : Oid := 3500
def anyrange : Oid := 3831

def xmlArray : Oid := 143
def jsonArray : Oid := 199
def cidrArray : Oid := 651
def circleArray : Oid := 719
def moneyArray : Oid := 791
def boolArray : Oid := 1000
def byteaArray : Oid := 1001
def charArray : Oid := 1002
def nameArray : Oid := 1003
def int2Array : Oid := 1005
def int4Array : Oid := 1007
def textArray : Oid := 1009
def bpcharArray : Oid := 1014
def varcharArray : Oid := 1015
def int8Array : Oid := 1016
def pointArray : Oid := 1017
def float4Array : Oid := 1021
def float8Array : Oid := 1022
def oidArray : Oid := 1028
def macaddrArray : Oid := 1040
def inetArray : Oid := 1041
def timestampArray : Oid := 1115
def dateArray : Oid := 1182
def timeArray : Oid := 1183
def timestamptzArray : Oid := 1185
def intervalArray : Oid := 1187
def numericArray : Oid := 1231
def uuidArray : Oid := 2951
def jsonbArray : Oid := 3807
def int4rangeArray : Oid := 3905

def isPolymorphic (oid : Oid) : Bool :=
  oid == anyarray || oid == anyelement || oid == anyenum || oid == anyrange

end RecordSql.Oid
