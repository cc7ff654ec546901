/-!
# The opcode tables

The entries of the two runs of opcodes. Tokens are the opcodes that the
parser's token numbering shares, numbered upwards; extended opcodes exist
for the interpreter alone and are numbered downwards from zero. Neither
run has a gap, so an opcode's place in its table is its number.

An entry has two names: the identifier under which an opcode is stored
and read back, and the mnemonic shown to people. The two differ in more
than spelling for a few opcodes, which is why both are listed.
-/

set_option autoImplicit false

namespace ScriptRealm

/-- The names of an opcode. -/
structure OpcodeEntry where
  /-- The name under which the opcode is stored. -/
  identifier : String
  /-- The name shown in listings. -/
  mnemonic : String
  deriving DecidableEq, Inhabited

/-- The token opcodes, from the first number upwards. -/
def OpcodeEntry.tokens : List OpcodeEntry :=
  [ ⟨"EnterWith", "ENTERWITH"⟩, ⟨"LeaveWith", "LEAVEWITH"⟩, ⟨"Return", "RETURN"⟩,
    ⟨"Goto", "GOTO"⟩, ⟨"IfEq", "IFEQ"⟩, ⟨"IfNe", "IFNE"⟩, ⟨"SetName", "SETNAME"⟩,
    ⟨"BitOr", "BITOR"⟩, ⟨"BitXor", "BITXOR"⟩, ⟨"BitAnd", "BITAND"⟩, ⟨"Eq", "EQ"⟩, ⟨"Ne", "NE"⟩,
    ⟨"Lt", "LT"⟩, ⟨"Le", "LE"⟩, ⟨"Gt", "GT"⟩, ⟨"Ge", "GE"⟩, ⟨"Lsh", "LSH"⟩, ⟨"Rsh", "RSH"⟩,
    ⟨"Ursh", "URSH"⟩, ⟨"Add", "ADD"⟩, ⟨"Sub", "SUB"⟩, ⟨"Mul", "MUL"⟩, ⟨"Div", "DIV"⟩,
    ⟨"Mod", "MOD"⟩, ⟨"Not", "NOT"⟩, ⟨"BitNot", "BITNOT"⟩, ⟨"Pos", "POS"⟩, ⟨"Neg", "NEG"⟩,
    ⟨"New", "NEW"⟩, ⟨"DelProp", "DELPROP"⟩, ⟨"TypeOf", "TYPEOF"⟩, ⟨"GetProp", "GETPROP"⟩,
    ⟨"GetPropNoWarn", "GETPROPNOWARN"⟩, ⟨"SetProp", "SETPROP"⟩, ⟨"GetElem", "GETELEM"⟩,
    ⟨"SetElem", "SETELEM"⟩, ⟨"Call", "CALL"⟩, ⟨"Name", "NAME"⟩, ⟨"Number", "NUMBER"⟩,
    ⟨"String", "STRING"⟩, ⟨"Null", "NULL"⟩, ⟨"This", "THIS"⟩, ⟨"False", "FALSE"⟩,
    ⟨"True", "TRUE"⟩, ⟨"ShallowEq", "SHEQ"⟩, ⟨"ShallowNe", "SHNE"⟩, ⟨"RegExp", "REGEXP"⟩,
    ⟨"BindName", "BINDNAME"⟩, ⟨"Throw", "THROW"⟩, ⟨"Rethrow", "RETHROW"⟩, ⟨"In", "IN"⟩,
    ⟨"InstanceOf", "INSTANCEOF"⟩, ⟨"LocalLoad", "LOCAL_LOAD"⟩, ⟨"GetVar", "GETVAR"⟩,
    ⟨"SetVar", "SETVAR"⟩, ⟨"CatchScope", "CATCH_SCOPE"⟩, ⟨"EnumInitKeys", "ENUM_INIT_KEYS"⟩,
    ⟨"EnumInitValues", "ENUM_INIT_VALUES"⟩, ⟨"EnumInitArray", "ENUM_INIT_ARRAY"⟩,
    ⟨"EnumInitValuesInOrder", "ENUM_INIT_VALUES_IN_ORDER"⟩, ⟨"EnumNext", "ENUM_NEXT"⟩,
    ⟨"EnumId", "ENUM_ID"⟩, ⟨"ThisFn", "THISFN"⟩, ⟨"ReturnResult", "RETURN_RESULT"⟩,
    ⟨"ArrayLit", "ARRAYLIT"⟩, ⟨"ObjectLit", "OBJECTLIT"⟩, ⟨"GetRef", "GET_REF"⟩,
    ⟨"SetRef", "SET_REF"⟩, ⟨"DelRef", "DEL_REF"⟩, ⟨"RefCall", "REF_CALL"⟩,
    ⟨"RefSpecial", "REF_SPECIAL"⟩, ⟨"Yield", "YIELD"⟩, ⟨"StrictSetName", "STRICT_SETNAME"⟩,
    ⟨"Exp", "EXP"⟩, ⟨"DefaultNamespace", "DEFAULTNAMESPACE"⟩, ⟨"EscXmlAttr", "ESCXMLATTR"⟩,
    ⟨"EscXmlText", "ESCXMLTEXT"⟩, ⟨"RefMember", "REF_MEMBER"⟩, ⟨"RefNsMember", "REF_NS_MEMBER"⟩,
    ⟨"RefName", "REF_NAME"⟩, ⟨"RefNsName", "REF_NS_NAME"⟩, ⟨"BigInt", "BIGINT"⟩ ]

/-- The extended opcodes, from zero downwards. -/
def OpcodeEntry.extended : List OpcodeEntry :=
  [ ⟨"DelName", "DELNAME"⟩, ⟨"Dup", "DUP"⟩, ⟨"Dup2", "DUP2"⟩, ⟨"Swap", "SWAP"⟩, ⟨"Pop", "POP"⟩,
    ⟨"PopResult", "POP_RESULT"⟩, ⟨"IfEqPop", "IFEQ_POP"⟩, ⟨"VarIncDec", "VAR_INC_DEC"⟩,
    ⟨"NameIncDec", "NAME_INC_DEC"⟩, ⟨"PropIncDec", "PROP_INC_DEC"⟩,
    ⟨"ElemIncDec", "ELEM_INC_DEC"⟩, ⟨"RefIncDec", "REF_INC_DEC"⟩, ⟨"ScopeLoad", "SCOPE_LOAD"⟩,
    ⟨"ScopeSave", "SCOPE_SAVE"⟩, ⟨"TypeOfName", "TYPEOFNAME"⟩, ⟨"NameAndThis", "NAME_AND_THIS"⟩,
    ⟨"PropAndThis", "PROP_AND_THIS"⟩, ⟨"ElemAndThis", "ELEM_AND_THIS"⟩,
    ⟨"ValueAndThis", "VALUE_AND_THIS"⟩, ⟨"NameAndThisOptional", "NAME_AND_THIS_OPTIONAL"⟩,
    ⟨"PropAndThisOptional", "PROP_AND_THIS_OPTIONAL"⟩,
    ⟨"ElemAndThisOptional", "ELEM_AND_THIS_OPTIONAL"⟩,
    ⟨"ValueAndThisOptional", "VALUE_AND_THIS_OPTIONAL"⟩, ⟨"ClosureExpr", "CLOSURE_EXPR"⟩,
    ⟨"ClosureStmt", "CLOSURE_STMT"⟩, ⟨"CallSpecial", "CALLSPECIAL"⟩,
    ⟨"CallSpecialOptional", "CALLSPECIAL_OPTIONAL"⟩, ⟨"RetUndef", "RETUNDEF"⟩,
    ⟨"Gosub", "GOSUB"⟩, ⟨"StartSub", "STARTSUB"⟩, ⟨"RetSub", "RETSUB"⟩, ⟨"Line", "LINE"⟩,
    ⟨"ShortNumber", "SHORTNUMBER"⟩, ⟨"IntNumber", "INTNUMBER"⟩,
    ⟨"LiteralNewObject", "LITERAL_NEW_OBJECT"⟩, ⟨"LiteralNewArray", "LITERAL_NEW_ARRAY"⟩,
    ⟨"LiteralSet", "LITERAL_SET"⟩, ⟨"FnStoreHomeObject", "FN_STORE_HOME_OBJECT"⟩,
    ⟨"SparseArrayLit", "SPARE_ARRAYLIT"⟩, ⟨"RegIndC0", "REG_IND_C0"⟩, ⟨"RegIndC1", "REG_IND_C1"⟩,
    ⟨"RegIndC2", "REG_IND_C2"⟩, ⟨"RegIndC3", "REG_IND_C3"⟩, ⟨"RegIndC4", "REG_IND_C4"⟩,
    ⟨"RegIndC5", "REG_IND_C5"⟩, ⟨"RegInd1", "LOAD_IND1"⟩, ⟨"RegInd2", "LOAD_IND2"⟩,
    ⟨"RegInd4", "LOAD_IND4"⟩, ⟨"RegStrC0", "REG_STR_C0"⟩, ⟨"RegStrC1", "REG_STR_C1"⟩,
    ⟨"RegStrC2", "REG_STR_C2"⟩, ⟨"RegStrC3", "REG_STR_C3"⟩, ⟨"RegStr1", "LOAD_STR1"⟩,
    ⟨"RegStr2", "LOAD_STR2"⟩, ⟨"RegStr4", "LOAD_STR4"⟩, ⟨"GetVar1", "GETVAR1"⟩,
    ⟨"SetVar1", "SETVAR1"⟩, ⟨"Undef", "UNDEF"⟩, ⟨"Zero", "ZERO"⟩, ⟨"One", "ONE"⟩,
    ⟨"EnterDq", "ENTERDQ"⟩, ⟨"LeaveDq", "LEAVEDQ"⟩, ⟨"TailCall", "TAIL_CALL"⟩,
    ⟨"LocalClear", "LOCAL_CLEAR"⟩, ⟨"LiteralGetter", "LITERAL_GETTER"⟩,
    ⟨"LiteralSetter", "LITERAL_SETTER"⟩, ⟨"SetConst", "SETCONST"⟩,
    ⟨"SetConstVar", "SETCONSTVAR"⟩, ⟨"SetConstVar1", "SETCONSTVAR1"⟩, ⟨"Generator", "GENERATOR"⟩,
    ⟨"GeneratorEnd", "GENERATOR_END"⟩, ⟨"Debugger", "DEBUGGER"⟩,
    ⟨"GeneratorReturn", "GENERATOR_RETURN"⟩, ⟨"YieldStar", "YIELD_STAR"⟩,
    ⟨"RegBigIntC0", "REG_BIGINT_C0"⟩, ⟨"RegBigIntC1", "REG_BIGINT_C1"⟩,
    ⟨"RegBigIntC2", "REG_BIGINT_C2"⟩, ⟨"RegBigIntC3", "REG_BIGINT_C3"⟩,
    ⟨"RegBigInt1", "LOAD_BIGINT1"⟩, ⟨"RegBigInt2", "LOAD_BIGINT2"⟩,
    ⟨"RegBigInt4", "LOAD_BIGINT4"⟩, ⟨"TemplateLiteralCallSite", "TEMPLATE_LITERAL_CALLSITE"⟩,
    ⟨"LiteralKeySet", "LITERAL_KEY_SET"⟩, ⟨"IfNullUndef", "IF_NULL_UNDEF"⟩,
    ⟨"IfNotNullUndef", "IF_NOT_NULL_UNDEF"⟩, ⟨"CallOnSuper", "CALL_ON_SUPER"⟩,
    ⟨"DelPropSuper", "DELPROP_SUPER"⟩ ]

/-- The number of opcodes that are tokens. -/
theorem OpcodeEntry.length_tokens : OpcodeEntry.tokens.length = 82 := rfl

/-- The number of extended opcodes. -/
theorem OpcodeEntry.length_extended : OpcodeEntry.extended.length = 87 := rfl

end ScriptRealm
