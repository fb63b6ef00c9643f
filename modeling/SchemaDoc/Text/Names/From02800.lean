/-
SchemaDoc.Text.Names.From02800 — the names of the characters from U+2800 on.

The block holds Braille, arrows, operators, and scripts.
How it is written is said where it is read.
-/

namespace SchemaDoc.Text.Names

/-- The names from U+2800 on. -/
def from02800 : String :=
  "aBRAILLE PATTERN BLANK,fDOTS-1,b2,b12,c3,b13,c23,c123,d4,b14,c24,c124,d34,c134,d234,d1234,e5,b15
c25,c125,d35,c135,d235,d1235,e45,c145,d245,d1245,e345,d1345,e2345,e12345,f6,b16,c26,c126,d36,c136
d236,d1236,e46,c146,d246,d1246,e346,d1346,e2346,e12346,f56,c156,d256,d1256,e356,d1356,e2356,e12356
f456,d1456,e2456,e12456,f3456,e13456,f23456,f123456,g7,b17,c27,c127,d37,c137,d237,d1237,e47,c147
d247,d1247,e347,d1347,e2347,e12347,f57,c157,d257,d1257,e357,d1357,e2357,e12357,f457,d1457,e2457
e12457,f3457,e13457,f23457,f123457,g67,c167,d267,d1267,e367,d1367,e2367,e12367,f467,d1467,e2467
e12467,f3467,e13467,f23467,f123467,g567,d1567,e2567,e12567,f3567,e13567,f23567,f123567,g4567,e14567
f24567,f124567,g34567,f134567,g234567,g1234567,h8,b18,c28,c128,d38,c138,d238,d1238,e48,c148,d248
d1248,e348,d1348,e2348,e12348,f58,c158,d258,d1258,e358,d1358,e2358,e12358,f458,d1458,e2458,e12458
f3458,e13458,f23458,f123458,g68,c168,d268,d1268,e368,d1368,e2368,e12368,f468,d1468,e2468,e12468
f3468,e13468,f23468,f123468,g568,d1568,e2568,e12568,f3568,e13568,f23568,f123568,g4568,e14568,f24568
f124568,g34568,f134568,g234568,g1234568,h78,c178,d278,d1278,e378,d1378,e2378,e12378,f478,d1478
e2478,e12478,f3478,e13478,f23478,f123478,g578,d1578,e2578,e12578,f3578,e13578,f23578,f123578,g4578
e14578,f24578,f124578,g34578,f134578,g234578,g1234578,h678,d1678,e2678,e12678,f3678,e13678,f23678
f123678,g4678,e14678,f24678,f124678,g34678,f134678,g234678,g1234678,h5678,e15678,f25678,f125678
g35678,f135678,g235678,g1235678,h45678,f145678,g245678,g1245678,h345678,g1345678,h2345678,h12345678
zeRIGHTWARDS TWO-HEADED ARROW WITH VERTICAL STROKE,pDOUBLE VERTICAL STROKE
zzfLEFTWARDS DOUBLE ARROW WITH VERTICAL STROKE,zsRIGHTWARDS DOUBLE ARROW WITH VERTICAL STROKE
ztLEFT RIGHT DOUBLE ARROW WITH VERTICAL STROKE,ztRIGHTWARDS TWO-HEADED ARROW FROM BAR
zlLEFTWARDS DOUBLE ARROW FROM BAR,zgRIGHTWARDS DOUBLE ARROW FROM BAR
zhDOWNWARDS ARROW WITH HORIZONTAL STROKE,znUPWARDS ARROW WITH HORIZONTAL STROKE,zdTRIPLE ARROW
uDOWNWARDS TRIPLE ARROW,wLEFTWARDS DOUBLE DASH ARROW,zcRIGHTWARDS DOUBLE DASH ARROW
zdLEFTWARDS TRIPLE DASH ARROW,zcRIGHTWARDS TRIPLE DASH ARROW,qWO-HEADED TRIPLE DASH ARROW
zdARROW WITH DOTTED STEM,ziUPWARDS ARROW TO BAR,uDOWNWARDS ARROW TO BAR
wRIGHTWARDS ARROW WITH TAIL WITH VERTICAL STROKE,pDOUBLE VERTICAL STROKE
zsTWO-HEADED ARROW WITH TAIL,a WITH VERTICAL STROKE,pDOUBLE VERTICAL STROKE,zzpLEFTWARDS ARROW-TAIL
uRIGHTWARDS ARROW-TAIL,vLEFTWARDS DOUBLE ARROW-TAIL,zcRIGHTWARDS DOUBLE ARROW-TAIL
zdLEFTWARDS ARROW TO BLACK DIAMOND,zhRIGHTWARDS ARROW TO BLACK DIAMOND
ziLEFTWARDS ARROW FROM BAR TO BLACK DIAMOND,zqRIGHTWARDS ARROW FROM BAR TO BLACK DIAMOND
zrNORTH WEST AND SOUTH EAST ARROW,zaEAST AND SOUTH WEST ARROW,zaWEST ARROW WITH HOOK
uEAST ARROW WITH HOOK,zbSOUTH EAST ARROW WITH HOOK,uWEST ARROW WITH HOOK
zbNORTH WEST ARROW AND NORTH EAST ARROW,zgEAST ARROW AND SOUTH EAST ARROW
zmSOUTH EAST ARROW AND SOUTH WEST ARROW,zgWEST ARROW AND NORTH WEST ARROW
zmRISING DIAGONAL CROSSING FALLING DIAGONAL,zqFALLING DIAGONAL CROSSING RISING DIAGONAL
zqSOUTH EAST ARROW CROSSING NORTH EAST ARROW,zrNORTH EAST ARROW CROSSING SOUTH EAST ARROW
zrFALLING DIAGONAL CROSSING NORTH EAST ARROW,zrRISING DIAGONAL CROSSING SOUTH EAST ARROW
zqNORTH EAST ARROW CROSSING NORTH WEST ARROW,zlWEST ARROW CROSSING NORTH EAST ARROW
zrWAVE ARROW POINTING DIRECTLY RIGHT,zjARROW POINTING RIGHTWARDS THEN CURVING UPWARDS,hDOWNWARDS
ziDOWNWARDS THEN CURVING LEFTWARDS,jRIGHTWARDS,zxRIGHT-SIDE ARC CLOCKWISE ARROW
zfLEFT-SIDE ARC ANTICLOCKWISE ARROW,ziTOP ARC ANTICLOCKWISE ARROW,zcBOTTOM ARC ANTICLOCKWISE ARROW
zfTOP ARC CLOCKWISE ARROW WITH MINUS,zbANTICLOCKWISE ARROW WITH PLUS
zmLOWER RIGHT SEMICIRCULAR CLOCKWISE ARROW,zjLEFT SEMICIRCULAR ANTICLOCKWISE ARROW
zsANTICLOCKWISE CLOSED CIRCLE ARROW,ziCLOCKWISE CLOSED CIRCLE ARROW
zeRIGHTWARDS ARROW ABOVE SHORT LEFTWARDS ARROW,ztLEFTWARDS ARROW ABOVE SHORT RIGHTWARDS ARROW
ztSHORT RIGHTWARDS ARROW ABOVE LEFTWARDS ARROW,ztRIGHTWARDS ARROW WITH PLUS BELOW
zhLEFTWARDS ARROW WITH PLUS BELOW,zgRIGHTWARDS ARROW THROUGH X
zbLEFT RIGHT ARROW THROUGH SMALL CIRCLE,zmUPWARDS TWO-HEADED ARROW FROM SMALL CIRCLE
zrLEFT BARB UP RIGHT BARB DOWN HARPOON,zbDOWN RIGHT BARB UP HARPOON
zlUP BARB RIGHT DOWN BARB LEFT HARPOON,zdLEFT DOWN BARB RIGHT HARPOON
zlLEFT BARB UP RIGHT BARB UP HARPOON,zjUP BARB RIGHT DOWN BARB RIGHT HARPOON
zmLEFT BARB DOWN RIGHT BARB DOWN HARPOON,znUP BARB LEFT DOWN BARB LEFT HARPOON
zkLEFTWARDS HARPOON WITH BARB UP TO BAR,zmRIGHTWARDS HARPOON WITH BARB UP TO BAR
znUPWARDS HARPOON WITH BARB RIGHT TO BAR,znDOWNWARDS HARPOON WITH BARB RIGHT TO BAR
zpLEFTWARDS HARPOON WITH BARB DOWN TO BAR,zoRIGHTWARDS HARPOON WITH BARB DOWN TO BAR
zpUPWARDS HARPOON WITH BARB LEFT TO BAR,zmDOWNWARDS HARPOON WITH BARB LEFT TO BAR
zoLEFTWARDS HARPOON WITH BARB UP FROM BAR,zoRIGHTWARDS HARPOON WITH BARB UP FROM BAR
zpUPWARDS HARPOON WITH BARB RIGHT FROM BAR,zpDOWNWARDS HARPOON WITH BARB RIGHT FROM BAR
zrLEFTWARDS HARPOON WITH BARB DOWN FROM BAR,zqRIGHTWARDS HARPOON WITH BARB DOWN FROM BAR
zrUPWARDS HARPOON WITH BARB LEFT FROM BAR,zoDOWNWARDS HARPOON WITH BARB LEFT FROM BAR
zqLEFTWARDS HARPOON WITH BARB UP ABOVE LEFTWARDS HARPOON WITH BARB DOWN
zztUPWARDS HARPOON WITH BARB LEFT BESIDE UPWARDS HARPOON WITH BARB RIGHT
zztRIGHTWARDS HARPOON WITH BARB UP ABOVE RIGHTWARDS HARPOON WITH BARB DOWN
zzvDOWNWARDS HARPOON WITH BARB LEFT BESIDE DOWNWARDS HARPOON WITH BARB RIGHT
zzxLEFTWARDS HARPOON WITH BARB UP ABOVE RIGHTWARDS HARPOON WITH BARB UP
zpDOWN ABOVE RIGHTWARDS HARPOON WITH BARB DOWN
zzwRIGHTWARDS HARPOON WITH BARB UP ABOVE LEFTWARDS HARPOON WITH BARB UP
zoDOWN ABOVE LEFTWARDS HARPOON WITH BARB DOWN,zzwLEFTWARDS HARPOON WITH BARB UP ABOVE LONG DASH
sDOWN BELOW LONG DASH,zxRIGHTWARDS HARPOON WITH BARB UP ABOVE LONG DASH,sDOWN BELOW LONG DASH
zyUPWARDS HARPOON WITH BARB LEFT BESIDE DOWNWARDS HARPOON WITH BARB RIGHT
zzvDOWNWARDS HARPOON WITH BARB LEFT BESIDE UPWARDS HARPOON WITH BARB RIGHT
zzvRIGHT DOUBLE ARROW WITH ROUNDED HEAD,zlEQUALS SIGN ABOVE RIGHTWARDS ARROW
zjTILDE OPERATOR ABOVE RIGHTWARDS ARROW,zmLEFTWARDS ARROW ABOVE TILDE OPERATOR
zlRIGHTWARDS ARROW ABOVE TILDE OPERATOR,oALMOST EQUAL TO,znLESS-THAN ABOVE LEFTWARDS ARROW
zeFTWARDS ARROW THROUGH LESS-THAN,ziGREATER-THAN ABOVE RIGHTWARDS ARROW
zkSUBSET ABOVE RIGHTWARDS ARROW,zeLEFTWARDS ARROW THROUGH SUBSET,zfSUPERSET ABOVE LEFTWARDS ARROW
zfLEFT FISH TAIL,oRIGHT FISH TAIL,pUP FISH TAIL,mDOWN FISH TAIL,oTRIPLE VERTICAL BAR DELIMITER
zeZ NOTATION SPOT,eTYPE COLON,vLEFT WHITE CURLY BRACKET,yRIGHT WHITE CURLY BRACKET
zaLEFT WHITE PARENTHESIS,wRIGHT WHITE PARENTHESIS,xZ NOTATION LEFT IMAGE BRACKET
sRIGHT IMAGE BRACKET,tLEFT BINDING BRACKET,uRIGHT BINDING BRACKET
zhLEFT SQUARE BRACKET WITH UNDERBAR,ziRIGHT SQUARE BRACKET WITH UNDERBAR
zjLEFT SQUARE BRACKET WITH TICK IN TOP CORNER,zsRIGHT SQUARE BRACKET WITH TICK IN BOTTOM CORNER
zwLEFT SQUARE BRACKET WITH TICK IN BOTTOM CORNER,zvRIGHT SQUARE BRACKET WITH TICK IN TOP CORNER
ztLEFT ANGLE BRACKET WITH DOT,zcRIGHT ANGLE BRACKET WITH DOT,zdLEFT ARC LESS-THAN BRACKET
zbRIGHT ARC GREATER-THAN BRACKET,zfDOUBLE LEFT ARC GREATER-THAN BRACKET
zeRIGHT ARC LESS-THAN BRACKET,zjLEFT BLACK TORTOISE SHELL BRACKET
ziRIGHT BLACK TORTOISE SHELL BRACKET,zjDOTTED FENCE,mVERTICAL ZIGZAG LINE
uMEASURED ANGLE OPENING LEFT,zcRIGHT ANGLE VARIANT WITH SQUARE,zgMEASURED RIGHT ANGLE WITH DOT
zeANGLE WITH S INSIDE,sCUTE ANGLE,lSPHERICAL ANGLE OPENING LEFT,eUP,zbTURNED ANGLE,mREVERSED ANGLE
oANGLE WITH UNDERBAR,tREVERSED ANGLE WITH UNDERBAR,zdOBLIQUE ANGLE OPENING UP,cDOWN
zbMEASURED ANGLE WITH OPEN ARM ENDING IN ARROW POINTING UP AND RIGHT,fLEFT,lDOWN AND RIGHT,fLEFT
nRIGHT AND UP,mLEFT AND UP,lRIGHT AND DOWN,oLEFT AND DOWN,zzrREVERSED EMPTY SET
sEMPTY SET WITH OVERBAR,hSMALL CIRCLE ABOVE,sRIGHT ARROW ABOVE,rLEFT ARROW ABOVE
zgCIRCLE WITH HORIZONTAL BAR,uD VERTICAL BAR,mPARALLEL,iREVERSE SOLIDUS,pPERPENDICULAR
p DIVIDED BY HORIZONTAL BAR AND TOP HALF DIVIDED BY VERTICAL BAR,zzmWITH SUPERIMPOSED X
uD ANTICLOCKWISE-ROTATED DIVISION SIGN,zsUP ARROW THROUGH CIRCLE,xCIRCLED WHITE BULLET,mBULLET
gLESS-THAN,jGREATER-THAN,o WITH SMALL CIRCLE TO THE RIGHT,zaTWO HORIZONTAL STROKES TO THE RIGHT
zwSQUARED RISING DIAGONAL SLASH,vFALLING DIAGONAL SLASH,wASTERISK,iSMALL CIRCLE,lQUARE
oTWO JOINED SQUARES,rRIANGLE WITH DOT ABOVE,jUNDERBAR,wS IN TRIANGLE
nTRIANGLE WITH SERIFS AT BOTTOM,zfRIGHT TRIANGLE ABOVE LEFT TRIANGLE
zjLEFT TRIANGLE BESIDE VERTICAL BAR,ziVERTICAL BAR BESIDE RIGHT TRIANGLE
zjBOWTIE WITH LEFT HALF BLACK,pRIGHT HALF BLACK,zcLACK BOWTIE,mTIMES WITH LEFT HALF BLACK
pRIGHT HALF BLACK,zcWHITE HOURGLASS,pBLACK HOURGLASS,pLEFT WIGGLY FENCE,rRIGHT WIGGLY FENCE
sLEFT DOUBLE WIGGLY FENCE,yRIGHT DOUBLE WIGGLY FENCE,zaINCOMPLETE INFINITY,tTIE OVER INFINITY
rINFINITY NEGATED WITH VERTICAL BAR,zjDOUBLE-ENDED MULTIMAP,vSQUARE WITH CONTOURED OUTLINE
zeINCREASES AS,mSHUFFLE PRODUCT,pEQUALS SIGN AND SLANTED PARALLEL,a WITH TILDE ABOVE
zyIDENTICAL TO AND SLANTED PARALLEL,ziGLEICH STARK,mTHERMODYNAMIC
nDOWN-POINTING TRIANGLE WITH LEFT HALF BLACK,pRIGHT HALF BLACK,ztBLACK DIAMOND WITH DOWN ARROW
xLOZENGE,nWHITE CIRCLE WITH DOWN ARROW,zdBLACK CIRCLE WITH DOWN ARROW,zdERROR-BARRED WHITE SQUARE
mBLACK SQUARE,mWHITE DIAMOND,nBLACK DIAMOND,nWHITE CIRCLE,mBLACK CIRCLE,zaRULE-DELAYED
lEVERSE SOLIDUS OPERATOR,ySOLIDUS WITH OVERBAR,uREVERSE SOLIDUS WITH HORIZONTAL STROKE
znBIG SOLIDUS,hREVERSE SOLIDUS,tDOUBLE PLUS,lTRIPLE PLUS,lLEFT-POINTING CURVED ANGLE BRACKET
zjRIGHT-POINTING CURVED ANGLE BRACKET,zkTINY,eMINY,eN-ARY CIRCLED DOT OPERATOR,mPLUS OPERATOR
nTIMES OPERATOR,wUNION OPERATOR WITH DOT,dPLUS,ySQUARE INTERSECTION OPERATOR,vUNION OPERATOR
zcTWO LOGICAL AND OPERATOR,mOR OPERATOR,xN-ARY TIMES OPERATOR,uMODULO TWO SUM
oSUMMATION WITH INTEGRAL,xQUADRUPLE INTEGRAL OPERATOR,zcFINITE PART INTEGRAL
uINTEGRAL WITH DOUBLE STROKE,sAVERAGE WITH SLASH,zcCIRCULATION FUNCTION,uANTICLOCKWISE INTEGRATION
zaLINE INTEGRATION WITH RECTANGULAR PATH AROUND POLE,zdSEMICIRCULAR PATH AROUND POLE
zjNOT INCLUDING THE POLE,zoINTEGRAL AROUND A POINT OPERATOR,zhQUATERNION INTEGRAL OPERATOR
zdINTEGRAL WITH LEFTWARDS ARROW WITH HOOK,zaTIMES SIGN,kINTERSECTION,mUNION,fOVERBAR,hUNDERBAR
wJOIN,eLARGE LEFT TRIANGLE OPERATOR,zdZ NOTATION SCHEMA COMPOSITION,lPIPING,fROJECTION
zdPLUS SIGN WITH SMALL CIRCLE ABOVE,sCIRCUMFLEX ACCENT ABOVE,xTILDE ABOVE,lDOT BELOW,jTILDE BELOW
lSUBSCRIPT TWO,nBLACK TRIANGLE,zeMINUS SIGN WITH COMMA ABOVE,lDOT BELOW,jFALLING DOTS,mRISING DOTS
zcPLUS SIGN IN LEFT HALF CIRCLE,qRIGHT HALF CIRCLE,zfVECTOR OR CROSS PRODUCT
xMULTIPLICATION SIGN WITH DOT ABOVE,jUNDERBAR,ziSEMIDIRECT PRODUCT WITH BOTTOM CLOSED
zlMASH PRODUCT,nMULTIPLICATION SIGN IN LEFT HALF CIRCLE,qRIGHT HALF CIRCLE
zpCIRCLED MULTIPLICATION SIGN WITH CIRCUMFLEX ACCENT,zzaMULTIPLICATION SIGN IN DOUBLE CIRCLE
zlCIRCLED DIVISION SIGN,vPLUS SIGN IN TRIANGLE,vMINUS SIGN IN TRIANGLE
vULTIPLICATION SIGN IN TRIANGLE,zgINTERIOR PRODUCT,qRIGHTHAND INTERIOR PRODUCT
zbZ NOTATION RELATIONAL COMPOSITION,ziAMALGAMATION OR COPRODUCT,zaINTERSECTION WITH DOT
vUNION WITH MINUS SIGN,kOVERBAR,sINTERSECTION WITH OVERBAR,hLOGICAL AND,zeUNION WITH LOGICAL OR
pABOVE INTERSECTION,yINTERSECTION ABOVE UNION,yUNION ABOVE BAR ABOVE INTERSECTION
zjINTERSECTION ABOVE BAR ABOVE UNION,zjUNION BESIDE AND JOINED WITH UNION
zjINTERSECTION BESIDE AND JOINED WITH INTERSECTION,zxCLOSED UNION WITH SERIFS
rINTERSECTION WITH SERIFS,zgDOUBLE SQUARE INTERSECTION,mUNION
tCLOSED UNION WITH SERIFS AND SMASH PRODUCT,zrLOGICAL AND WITH DOT ABOVE,sOR WITH DOT ABOVE
zaDOUBLE LOGICAL AND,dOR,rTWO INTERSECTING LOGICAL AND,dOR,zcSLOPING LARGE OR,cAND
rLOGICAL OR OVERLAPPING LOGICAL AND,zbAND WITH MIDDLE STEM,uOR WITH MIDDLE STEM
tAND WITH HORIZONTAL DASH,yOR WITH HORIZONTAL DASH,xAND WITH DOUBLE OVERBAR,oUNDERBAR
iDOUBLE UNDERBAR,zhSMALL VEE WITH UNDERBAR,xLOGICAL OR WITH DOUBLE OVERBAR,hUNDERBAR
zgZ NOTATION DOMAIN ANTIRESTRICTION,wRANGE ANTIRESTRICTION,zhEQUALS SIGN WITH DOT BELOW
zbIDENTICAL WITH DOT ABOVE,yTRIPLE HORIZONTAL BAR WITH DOUBLE VERTICAL STROKE
wTRIPLE VERTICAL STROKE,zxILDE OPERATOR WITH DOT ABOVE,jRISING DOTS,zgSIMILAR MINUS SIMILAR
vCONGRUENT WITH DOT ABOVE,yEQUALS WITH ASTERISK,uALMOST EQUAL TO WITH CIRCUMFLEX ACCENT
zmPPROXIMATELY EQUAL OR EQUAL TO,zgEQUALS SIGN ABOVE PLUS SIGN,zcPLUS SIGN ABOVE EQUALS SIGN
zcEQUALS SIGN ABOVE TILDE OPERATOR,zhDOUBLE COLON EQUAL,sTWO CONSECUTIVE EQUALS SIGNS
zcHREE CONSECUTIVE EQUALS SIGNS,zfEQUALS SIGN WITH TWO DOTS ABOVE AND TWO DOTS BELOW
zwIVALENT WITH FOUR DOTS ABOVE,zgLESS-THAN WITH CIRCLE INSIDE,zdGREATER-THAN WITH CIRCLE INSIDE
zgLESS-THAN WITH QUESTION MARK ABOVE,zjGREATER-THAN WITH QUESTION MARK ABOVE
zmLESS-THAN OR SLANTED EQUAL TO,zeGREATER-THAN OR SLANTED EQUAL TO
zhLESS-THAN OR SLANTED EQUAL TO WITH DOT INSIDE,zuGREATER-THAN OR SLANTED EQUAL TO WITH DOT INSIDE
zxLESS-THAN OR SLANTED EQUAL TO WITH DOT ABOVE,ztGREATER-THAN OR SLANTED EQUAL TO WITH DOT ABOVE
zwLESS-THAN OR SLANTED EQUAL TO WITH DOT ABOVE RIGHT
zzaGREATER-THAN OR SLANTED EQUAL TO WITH DOT ABOVE LEFT,zzcLESS-THAN OR APPROXIMATE
yGREATER-THAN OR APPROXIMATE,zcLESS-THAN AND SINGLE-LINE NOT EQUAL TO
znGREATER-THAN AND SINGLE-LINE NOT EQUAL TO,zqLESS-THAN AND NOT APPROXIMATE
zeGREATER-THAN AND NOT APPROXIMATE,zhLESS-THAN ABOVE DOUBLE-LINE EQUAL ABOVE GREATER-THAN
zzcGREATER-THAN ABOVE DOUBLE-LINE EQUAL ABOVE LESS-THAN,zzcLESS-THAN ABOVE SIMILAR OR EQUAL
zhGREATER-THAN ABOVE SIMILAR OR EQUAL,zkLESS-THAN ABOVE SIMILAR ABOVE GREATER-THAN
zrGREATER-THAN ABOVE SIMILAR ABOVE LESS-THAN,zrLESS-THAN ABOVE GREATER-THAN ABOVE DOUBLE-LINE EQUAL
zzcGREATER-THAN ABOVE LESS-THAN ABOVE DOUBLE-LINE EQUAL
zzcLESS-THAN ABOVE SLANTED EQUAL ABOVE GREATER-THAN ABOVE SLANTED EQUAL
zzsGREATER-THAN ABOVE SLANTED EQUAL ABOVE LESS-THAN ABOVE SLANTED EQUAL
zzsSLANTED EQUAL TO OR LESS-THAN,jGREATER-THAN,mLESS-THAN WITH DOT INSIDE
zaGREATER-THAN WITH DOT INSIDE,zxDOUBLE-LINE EQUAL TO OR LESS-THAN,jGREATER-THAN
ySLANTED EQUAL TO OR LESS-THAN,jGREATER-THAN,ztSIMILAR OR LESS-THAN,jGREATER-THAN
pABOVE LESS-THAN ABOVE EQUALS SIGN,zcGREATER-THAN ABOVE EQUALS SIGN,ztDOUBLE NESTED LESS-THAN
jGREATER-THAN,mLESS-THAN WITH UNDERBAR,zmGREATER-THAN OVERLAPPING LESS-THAN,vBESIDE LESS-THAN
zeLESS-THAN CLOSED BY CURVE,zaGREATER-THAN CLOSED BY CURVE
zdLESS-THAN CLOSED BY CURVE ABOVE SLANTED EQUAL,zuGREATER-THAN CLOSED BY CURVE ABOVE SLANTED EQUAL
zxSMALLER THAN,mLARGER THAN,lSMALLER THAN OR EQUAL TO,yLARGER THAN OR EQUAL TO
xEQUALS SIGN WITH BUMPY ABOVE,zdPRECEDES ABOVE SINGLE-LINE EQUALS SIGN
znSUCCEEDS ABOVE SINGLE-LINE EQUALS SIGN,znPRECEDES ABOVE SINGLE-LINE NOT EQUAL TO
zoSUCCEEDS ABOVE SINGLE-LINE NOT EQUAL TO,zoPRECEDES ABOVE EQUALS SIGN,zbSUCCEEDS ABOVE EQUALS SIGN
zbPRECEDES ABOVE NOT EQUAL TO,zcSUCCEEDS ABOVE NOT EQUAL TO,zcPRECEDES ABOVE ALMOST EQUAL TO
zfSUCCEEDS ABOVE ALMOST EQUAL TO,zfPRECEDES ABOVE NOT ALMOST EQUAL TO
zjSUCCEEDS ABOVE NOT ALMOST EQUAL TO,zjDOUBLE PRECEDES,iSUCCEEDS,pSUBSET WITH DOT,nPERSET WITH DOT
pBSET WITH PLUS SIGN BELOW,zaPERSET WITH PLUS SIGN BELOW,zcBSET WITH MULTIPLICATION SIGN BELOW
zkPERSET WITH MULTIPLICATION SIGN BELOW,zmBSET OF OR EQUAL TO WITH DOT ABOVE
zjPERSET OF OR EQUAL TO WITH DOT ABOVE,zlBSET OF ABOVE EQUALS SIGN,zaPERSET OF ABOVE EQUALS SIGN
zcBSET OF ABOVE TILDE OPERATOR,zdPERSET OF ABOVE TILDE OPERATOR,zfBSET OF ABOVE ALMOST EQUAL TO
zePERSET OF ABOVE ALMOST EQUAL TO,zgBSET OF ABOVE NOT EQUAL TO,zbPERSET OF ABOVE NOT EQUAL TO
zeQUARE LEFT OPEN BOX OPERATOR,wRIGHT OPEN BOX OPERATOR,zfCLOSED SUBSET,ePERSET,gBSET OR EQUAL TO
qPERSET OR EQUAL TO,zcSUBSET ABOVE SUPERSET,tPERSET ABOVE SUBSET,tBSET ABOVE SUBSET
rPERSET ABOVE SUPERSET,oBESIDE SUBSET,gAND JOINED BY DASH WITH SUBSET
zvELEMENT OF OPENING DOWNWARDS,zdPITCHFORK WITH TEE TOP,wTRANSVERSAL INTERSECTION,yFORKING
hNONFORKING,kSHORT LEFT TACK,jDOWN TACK,jUP TACK,nPERPENDICULAR WITH S
uVERTICAL BAR TRIPLE RIGHT TURNSTILE,zkDOUBLE VERTICAL BAR LEFT TURNSTILE
zjVERTICAL BAR DOUBLE LEFT TURNSTILE,zjDOUBLE VERTICAL BAR DOUBLE LEFT TURNSTILE
zqLONG DASH FROM LEFT MEMBER OF DOUBLE VERTICAL,zuSHORT DOWN TACK WITH OVERBAR
wUP TACK WITH UNDERBAR,nABOVE SHORT DOWN TACK,zkDOUBLE DOWN TACK,jUP TACK,hSTROKE NOT SIGN
wREVERSED DOUBLE STROKE NOT SIGN,zgDOES NOT DIVIDE WITH REVERSED NEGATION SLASH
ztVERTICAL LINE WITH CIRCLE ABOVE,fBELOW,zgDOWN TACK WITH CIRCLE BELOW
zcPARALLEL WITH HORIZONTAL STROKE,rTILDE OPERATOR,zdTRIPLE VERTICAL BAR BINARY RELATION
pWITH HORIZONTAL STROKE,zkCOLON OPERATOR,oNESTED LESS-THAN,jGREATER-THAN
zbDOUBLE-LINE SLANTED LESS-THAN OR EQUAL TO,vGREATER-THAN OR EQUAL TO
ztTRIPLE SOLIDUS BINARY RELATION,zfLARGE TRIPLE VERTICAL BAR OPERATOR,zjDOUBLE SOLIDUS OPERATOR
xWHITE VERTICAL BAR,sN-ARY WHITE VERTICAL BAR,xORTH EAST WHITE ARROW,qWEST WHITE ARROW
wSOUTH EAST WHITE ARROW,qWEST WHITE ARROW,wLEFT RIGHT WHITE ARROW,sWARDS BLACK ARROW
vUPWARDS BLACK ARROW,tDOWNWARDS BLACK ARROW,vNORTH EAST BLACK ARROW,qWEST BLACK ARROW
wSOUTH EAST BLACK ARROW,qWEST BLACK ARROW,wLEFT RIGHT BLACK ARROW,wUP DOWN BLACK ARROW
tRIGHTWARDS ARROW WITH TIP DOWNWARDS,jUPWARDS,ziLEFTWARDS ARROW WITH TIP DOWNWARDS,jUPWARDS
zhSQUARE WITH TOP HALF BLACK,oBOTTOM HALF BLACK,rUPPER RIGHT DIAGONAL HALF BLACK
zgLOWER LEFT DIAGONAL HALF BLACK,zrDIAMOND WITH LEFT HALF BLACK,pRIGHT HALF BLACK,qTOP HALF BLACK
oBOTTOM HALF BLACK,zeOTTED SQUARE,nBLACK LARGE SQUARE,sWHITE LARGE SQUARE,sBLACK VERY SMALL SQUARE
xWHITE VERY SMALL SQUARE,xBLACK PENTAGON,oWHITE PENTAGON,iHEXAGON,nBLACK HEXAGON
nHORIZONTAL BLACK HEXAGON,yBLACK LARGE CIRCLE,mMEDIUM DIAMOND,uWHITE MEDIUM DIAMOND
uBLACK MEDIUM LOZENGE,uWHITE MEDIUM LOZENGE,uBLACK SMALL DIAMOND,hLOZENGE,tWHITE SMALL LOZENGE
tBLACK HORIZONTAL ELLIPSE,yWHITE HORIZONTAL ELLIPSE,yBLACK VERTICAL ELLIPSE,wWHITE VERTICAL ELLIPSE
wLEFT ARROW WITH SMALL CIRCLE,zdTHREE LEFTWARDS ARROWS,wLEFT ARROW WITH CIRCLED PLUS
zcONG LEFTWARDS SQUIGGLE ARROW,zdEFTWARDS TWO-HEADED ARROW WITH VERTICAL STROKE
pDOUBLE VERTICAL STROKE,zcFROM BAR,oTRIPLE DASH ARROW,zdARROW WITH DOTTED STEM
lTAIL WITH VERTICAL STROKE,pDOUBLE VERTICAL STROKE,zsTWO-HEADED ARROW WITH TAIL
a WITH VERTICAL STROKE,pDOUBLE VERTICAL STROKE,zzeARROW THROUGH X
zaWAVE ARROW POINTING DIRECTLY LEFT,ziEQUALS SIGN ABOVE LEFTWARDS ARROW
ziREVERSE TILDE OPERATOR ABOVE LEFTWARDS ARROW,ztLEFTWARDS ARROW ABOVE REVERSE ALMOST EQUAL TO
zuRIGHTWARDS ARROW THROUGH GREATER-THAN,mSUPERSET,ziLEFTWARDS QUADRUPLE ARROW
zaRIGHTWARDS QUADRUPLE ARROW,zaEVERSE TILDE OPERATOR ABOVE RIGHTWARDS ARROW
ztIGHTWARDS ARROW ABOVE REVERSE ALMOST EQUAL TO,zvTILDE OPERATOR ABOVE LEFTWARDS ARROW
zlLEFTWARDS ARROW ABOVE ALMOST EQUAL TO,pREVERSE TILDE OPERATOR
ztRIGHTWARDS ARROW ABOVE REVERSE TILDE OPERATOR,zuDOWNWARDS TRIANGLE-HEADED ZIGZAG ARROW
znSHORT SLANTED NORTH ARROW,tBACKSLANTED SOUTH ARROW,zeWHITE MEDIUM STAR,rBLACK SMALL STAR
qWHITE SMALL STAR,qBLACK RIGHT-POINTING PENTAGON,zeWHITE RIGHT-POINTING PENTAGON
zeHEAVY LARGE CIRCLE,mOVAL WITH OVAL INSIDE,vCIRCLE WITH CIRCLE INSIDE,t,aD SALTIRE
vSLANTED NORTH ARROW WITH HOOKED HEAD,zlBACKSLANTED SOUTH ARROW WITH HOOKED TAIL
zpSLANTED NORTH ARROW WITH HORIZONTAL TAIL,zpBACKSLANTED SOUTH ARROW WITH HORIZONTAL TAIL
zsENT ARROW POINTING DOWNWARDS THEN NORTH EAST
zuSHORT BENT ARROW POINTING DOWNWARDS THEN NORTH EAST,zzbLEFTWARDS TRIANGLE-HEADED ARROW
zgUPWARDS TRIANGLE-HEADED ARROW,zeRIGHTWARDS TRIANGLE-HEADED ARROW
zhDOWNWARDS TRIANGLE-HEADED ARROW,zgLEFT RIGHT TRIANGLE-HEADED ARROW
zhUP DOWN TRIANGLE-HEADED ARROW,zeNORTH WEST TRIANGLE-HEADED ARROW,zbEAST TRIANGLE-HEADED ARROW
zhSOUTH EAST TRIANGLE-HEADED ARROW,zbWEST TRIANGLE-HEADED ARROW
zhLEFTWARDS TRIANGLE-HEADED DASHED ARROW,znUPWARDS TRIANGLE-HEADED DASHED ARROW
zlRIGHTWARDS TRIANGLE-HEADED DASHED ARROW,zoDOWNWARDS TRIANGLE-HEADED DASHED ARROW
znCLOCKWISE TRIANGLE-HEADED OPEN CIRCLE ARROW,zsANTICLOCKWISE TRIANGLE-HEADED OPEN CIRCLE ARROW
zwLEFTWARDS TRIANGLE-HEADED ARROW TO BAR,znUPWARDS TRIANGLE-HEADED ARROW TO BAR
zlRIGHTWARDS TRIANGLE-HEADED ARROW TO BAR,zoDOWNWARDS TRIANGLE-HEADED ARROW TO BAR,+2
znNORTH WEST TRIANGLE-HEADED ARROW TO BAR,ziEAST TRIANGLE-HEADED ARROW TO BAR
zoSOUTH EAST TRIANGLE-HEADED ARROW TO BAR,ziWEST TRIANGLE-HEADED ARROW TO BAR
zoLEFTWARDS TRIANGLE-HEADED ARROW WITH DOUBLE HORIZONTAL STROKE
zzlUPWARDS TRIANGLE-HEADED ARROW WITH DOUBLE HORIZONTAL STROKE
zzjRIGHTWARDS TRIANGLE-HEADED ARROW WITH DOUBLE HORIZONTAL STROKE
zzmDOWNWARDS TRIANGLE-HEADED ARROW WITH DOUBLE HORIZONTAL STROKE,zzlHORIZONTAL TAB KEY
sVERTICAL TAB KEY,qLEFTWARDS TRIANGLE-HEADED ARROW OVER RIGHTWARDS TRIANGLE-HEADED ARROW
zztUPWARDS TRIANGLE-HEADED ARROW LEFTWARDS OF DOWNWARDS TRIANGLE-HEADED ARROW
zzyRIGHTWARDS TRIANGLE-HEADED ARROW OVER LEFTWARDS TRIANGLE-HEADED ARROW
zztDOWNWARDS TRIANGLE-HEADED ARROW LEFTWARDS OF UPWARDS TRIANGLE-HEADED ARROW
zzyLEFTWARDS TRIANGLE-HEADED PAIRED ARROWS,zoUPWARDS TRIANGLE-HEADED PAIRED ARROWS
zmRIGHTWARDS TRIANGLE-HEADED PAIRED ARROWS,zpDOWNWARDS TRIANGLE-HEADED PAIRED ARROWS
zoLEFTWARDS BLACK CIRCLED WHITE ARROW,zkUPWARDS BLACK CIRCLED WHITE ARROW
ziRIGHTWARDS BLACK CIRCLED WHITE ARROW,zlDOWNWARDS BLACK CIRCLED WHITE ARROW
zkANTICLOCKWISE TRIANGLE-HEADED RIGHT U-SHAPED ARROW,uBOTTOM U-SHAPED ARROW,vLEFT U-SHAPED ARROW
tTOP U-SHAPED ARROW,zxRETURN LEFT,eRIGHT,mNEWLINE LEFT,eRIGHT
nFOUR CORNER ARROWS CIRCLING ANTICLOCKWISE,zqRIGHTWARDS BLACK ARROW,+1
wSYMBOL FOR TYPE A ELECTRONICS,zeTHREE-D TOP-LIGHTED LEFTWARDS EQUILATERAL ARROWHEAD
zsRIGHT-LIGHTED UPWARDS EQUILATERAL ARROWHEAD,zsTOP-LIGHTED RIGHTWARDS EQUILATERAL ARROWHEAD
ztLEFT-LIGHTED DOWNWARDS EQUILATERAL ARROWHEAD,zzcBLACK LEFTWARDS EQUILATERAL ARROWHEAD
zgUPWARDS EQUILATERAL ARROWHEAD,zeRIGHTWARDS EQUILATERAL ARROWHEAD
zhDOWNWARDS EQUILATERAL ARROWHEAD,zmDOWNWARDS TRIANGLE-HEADED ARROW WITH LONG TIP LEFTWARDS
jRIGHTWARDS,zzgUPWARDS TRIANGLE-HEADED ARROW WITH LONG TIP LEFTWARDS,jRIGHTWARDS
zzeLEFTWARDS TRIANGLE-HEADED ARROW WITH LONG TIP UPWARDS
zzdRIGHTWARDS TRIANGLE-HEADED ARROW WITH LONG TIP UPWARDS
zzeLEFTWARDS TRIANGLE-HEADED ARROW WITH LONG TIP DOWNWARDS
zzfRIGHTWARDS TRIANGLE-HEADED ARROW WITH LONG TIP DOWNWARDS
zzgBLACK CURVED DOWNWARDS AND LEFTWARDS ARROW,pRIGHTWARDS ARROW,zfUPWARDS AND LEFTWARDS ARROW
pRIGHTWARDS ARROW,zdLEFTWARDS AND UPWARDS ARROW,zcRIGHTWARDS AND UPWARDS ARROW
zdLEFTWARDS AND DOWNWARDS ARROW,zeRIGHTWARDS AND DOWNWARDS ARROW,zsRIBBON ARROW DOWN LEFT,eRIGHT
kUP LEFT,eRIGHT,iLEFT UP,hRIGHT UP,iLEFT DOWN,jRIGHT DOWN
xUPWARDS WHITE ARROW FROM BAR WITH HORIZONTAL BAR,zv ARROWHEAD IN A RECTANGLE BOX
zgOVERLAPPING WHITE SQUARES,hAND BLACK SQUARES,xBLACK SQUARES,zaBALLOT BOX WITH LIGHT X,xCIRCLED X
bBOLD X,oBLACK SQUARE CENTRED,oDIAMOND CENTRED,vTURNED BLACK PENTAGON,vHORIZONTAL BLACK OCTAGON
yBLACK OCTAGON,hMEDIUM UP-POINTING TRIANGLE CENTRED,zdDOWN-POINTING TRIANGLE CENTRED
zfLEFT-POINTING TRIANGLE CENTRED,zfRIGHT-POINTING TRIANGLE CENTRED,ztNEPTUNE FORM TWO
qTOP HALF BLACK CIRCLE,vBOTTOM HALF BLACK CIRCLE,yLIGHT FOUR POINTED BLACK CUSP
zeROTATED LIGHT FOUR POINTED BLACK CUSP,zmWHITE FOUR POINTED CUSP,xROTATED WHITE FOUR POINTED CUSP
zgSQUARE POSITION INDICATOR,zaUNCERTAINTY SIGN,qGROUP MARK,kPLUTO FORM TWO,cHREE,fFOUR,dIVE
pTRANSPLUTO,kPROSERPINA,kASTRAEA,hHYGIEA,gPHOLUS,gNESSUS,gWHITE MOON SELENA,rBLACK DIAMOND ON CROSS
wTRUE LIGHT MOON ARTA,uCUPIDO,gHADES,fZEUS,eKRONOS,gAPOLLON,gDMETOS,hVULCANUS,iPOSEIDON
iLEFT HALF BLACK STAR,uRIGHT HALF BLACK STAR,vSTAR WITH LEFT HALF BLACK,pRIGHT HALF BLACK
zbLEFTWARDS TWO-HEADED ARROW WITH TRIANGLE ARROWHEADS
zzbUPWARDS TWO-HEADED ARROW WITH TRIANGLE ARROWHEADS
zyRIGHTWARDS TWO-HEADED ARROW WITH TRIANGLE ARROWHEADS
zzcDOWNWARDS TWO-HEADED ARROW WITH TRIANGLE ARROWHEADS,zzbERIS FORM ONE,dTWO,nSEDNA
fRUSSIAN ASTROLOGICAL SYMBOL VIGINTILE,jNOVILE,gQUINTILE,iBINOVILE,iSENTAGON,iTREDECILE
zmEQUALS SIGN WITH INFINITY BELOW,zgUNITED SYMBOL,nSEPARATED SYMBOL,qDOUBLED SYMBOL,oPASSED SYMBOL
nREVERSED RIGHT ANGLE,uHELLSCHREIBER PAUSE SYMBOL,zbGLAGOLITIC CAPITAL LETTER AZU,dBUKY,eVEDE
eGLAGOLI,hDOBRO,fYESTU,fZHIVETE,hDZELO,fZEMLJA,gIZHE,dNITIAL IZHE,l,bDJERVI,gKAKO,eLJUDIJE,hMYSLITE
hNASHI,fONU,dPOKOJI,gRITSI,fSLOVO,fTVRIDO,gUKU,dFRITU,fHERU,eOTU,dPE,cSHTA,eTSI,dCHRIVI,gSHA,dYERU
bI,dATI,eSPIDERY HA,kYU,cSMALL YUS,a WITH TAIL,tYO,cIOTATED SMALL YUS,rBIG YUS,hIOTATED BIG YUS
pFITA,eIZHITSA,hSHTAPIC,hTROKUTASTI A,mLATINATE MYSLITE,qCAUDATE CHRIVI,zeSMALL LETTER AZU,dBUKY
eVEDE,eGLAGOLI,hDOBRO,fYESTU,fZHIVETE,hDZELO,fZEMLJA,gIZHE,dNITIAL IZHE,l,bDJERVI,gKAKO,eLJUDIJE
hMYSLITE,hNASHI,fONU,dPOKOJI,gRITSI,fSLOVO,fTVRIDO,gUKU,dFRITU,fHERU,eOTU,dPE,cSHTA,eTSI,dCHRIVI
gSHA,dYERU,bI,dATI,eSPIDERY HA,kYU,cSMALL YUS,a WITH TAIL,tYO,cIOTATED SMALL YUS,rBIG YUS
hIOTATED BIG YUS,pFITA,eIZHITSA,hSHTAPIC,hTROKUTASTI A,mLATINATE MYSLITE,qCAUDATE CHRIVI
znLATIN CAPITAL LETTER L WITH DOUBLE BAR,zhSMALL LETTER L WITH DOUBLE BAR
zfCAPITAL LETTER L WITH MIDDLE TILDE,tP WITH STROKE,nR WITH TAIL,zbSMALL LETTER A WITH STROKE
nT WITH DIAGONAL STROKE,zkCAPITAL LETTER H WITH DESCENDER,zgSMALL LETTER H WITH DESCENDER
zeCAPITAL LETTER K WITH DESCENDER,zgSMALL LETTER K WITH DESCENDER,zeCAPITAL LETTER Z WITH DESCENDER
zgSMALL LETTER Z WITH DESCENDER,zeCAPITAL LETTER ALPHA,fM WITH HOOK,lTURNED A,aLPHA
zcSMALL LETTER V WITH RIGHT HOOK,zfCAPITAL LETTER W WITH HOOK,zbSMALL LETTER W WITH HOOK
lV WITH CURL,yCAPITAL LETTER HALF H,vSMALL LETTER HALF H,gTAILLESS PHI,mE WITH NOTCH
mTURNED R WITH TAIL,sO WITH LOW RING INSIDE,zkLETTER SMALL CAPITAL TURNED E
zeSUBSCRIPT SMALL LETTER J,zfMODIFIER LETTER CAPITAL V,zaLATIN CAPITAL LETTER S WITH SWASH TAIL
rZ WITH SWASH TAIL,znCOPTIC CAPITAL LETTER ALFA,tSMALL LETTER ALFA,rCAPITAL LETTER VIDA
tSMALL LETTER VIDA,rCAPITAL LETTER GAMMA,uSMALL LETTER GAMMA,sCAPITAL LETTER DALDA
uSMALL LETTER DALDA,sCAPITAL LETTER EIE,sSMALL LETTER EIE,qCAPITAL LETTER SOU,sSMALL LETTER SOU
qCAPITAL LETTER ZATA,tSMALL LETTER ZATA,rCAPITAL LETTER HATE,tSMALL LETTER HATE
rCAPITAL LETTER THETHE,vSMALL LETTER THETHE,tCAPITAL LETTER IAUDA,uSMALL LETTER IAUDA
sCAPITAL LETTER KAPA,tSMALL LETTER KAPA,rCAPITAL LETTER LAULA,uSMALL LETTER LAULA
sCAPITAL LETTER MI,rSMALL LETTER MI,pCAPITAL LETTER NI,rSMALL LETTER NI,pCAPITAL LETTER KSI
sSMALL LETTER KSI,qCAPITAL LETTER O,qSMALL LETTER O,oCAPITAL LETTER PI,rSMALL LETTER PI
pCAPITAL LETTER RO,rSMALL LETTER RO,pCAPITAL LETTER SIMA,tSMALL LETTER SIMA,rCAPITAL LETTER TAU
sSMALL LETTER TAU,qCAPITAL LETTER UA,rSMALL LETTER UA,pCAPITAL LETTER FI,rSMALL LETTER FI
pCAPITAL LETTER KHI,sSMALL LETTER KHI,qCAPITAL LETTER PSI,sSMALL LETTER PSI,qCAPITAL LETTER OOU
sSMALL LETTER OOU,qCAPITAL LETTER DIALECT-P ALEF,zeSMALL LETTER DIALECT-P ALEF
zcCAPITAL LETTER OLD COPTIC AIN,zeSMALL LETTER OLD COPTIC AIN,zcCAPITAL LETTER CRYPTOGRAMMIC EIE
zhSMALL LETTER CRYPTOGRAMMIC EIE,zfCAPITAL LETTER DIALECT-P KAPA,zeSMALL LETTER DIALECT-P KAPA
zcCAPITAL LETTER DIALECT-P NI,zcSMALL LETTER DIALECT-P NI,zaCAPITAL LETTER CRYPTOGRAMMIC NI
zgSMALL LETTER CRYPTOGRAMMIC NI,zeCAPITAL LETTER OLD COPTIC OOU,zeSMALL LETTER OLD COPTIC OOU
zcCAPITAL LETTER SAMPI,uSMALL LETTER SAMPI,sCAPITAL LETTER CROSSED SHEI,zcSMALL LETTER CROSSED SHEI
zaCAPITAL LETTER OLD COPTIC SHEI,zfSMALL LETTER OLD COPTIC SHEI,zdCAPITAL LETTER OLD COPTIC ESH
zeSMALL LETTER OLD COPTIC ESH,zcCAPITAL LETTER AKHMIMIC KHEI,zdSMALL LETTER AKHMIMIC KHEI
zbCAPITAL LETTER DIALECT-P HORI,zeSMALL LETTER DIALECT-P HORI,zcCAPITAL LETTER OLD COPTIC HORI
zfSMALL LETTER OLD COPTIC HORI,zdCAPITAL LETTER OLD COPTIC HA,zdSMALL LETTER OLD COPTIC HA
zbCAPITAL LETTER L-SHAPED HA,zbSMALL LETTER L-SHAPED HA,yCAPITAL LETTER OLD COPTIC HEI
zeSMALL LETTER OLD COPTIC HEI,zcCAPITAL LETTER OLD COPTIC HAT,zeSMALL LETTER OLD COPTIC HAT
zcCAPITAL LETTER OLD COPTIC GANGIA,zhSMALL LETTER OLD COPTIC GANGIA,zfCAPITAL LETTER OLD COPTIC DJA
zeSMALL LETTER OLD COPTIC DJA,zcCAPITAL LETTER OLD COPTIC SHIMA,zgSMALL LETTER OLD COPTIC SHIMA
zeCAPITAL LETTER OLD NUBIAN SHIMA,zgSMALL LETTER OLD NUBIAN SHIMA,zeCAPITAL LETTER OLD NUBIAN NGI
zeSMALL LETTER OLD NUBIAN NGI,zcCAPITAL LETTER OLD NUBIAN NYI,zeSMALL LETTER OLD NUBIAN NYI
zcCAPITAL LETTER OLD NUBIAN WAU,zeSMALL LETTER OLD NUBIAN WAU,zbYMBOL KAI,dMI RO,fPI RO,fSTAUROS
hTAU RO,gKHI RO,gSHIMA SIMA,rCAPITAL LETTER CRYPTOGRAMMIC SHEI,ziSMALL LETTER CRYPTOGRAMMIC SHEI
zgCAPITAL LETTER CRYPTOGRAMMIC GANGIA,zkSMALL LETTER CRYPTOGRAMMIC GANGIA,ziCOMBINING NI ABOVE
iSPIRITUS ASPER,fLENIS,xAPITAL LETTER BOHAIRIC KHEI,zdSMALL LETTER BOHAIRIC KHEI,+5
zbOLD NUBIAN FULL STOP,jDIRECT QUESTION MARK,uINDIRECT QUESTION MARK,wVERSE DIVIDER
yFRACTION ONE HALF,qULL STOP,jMORPHOLOGICAL DIVIDER,zdGEORGIAN SMALL LETTER AN,cBAN,dGAN,dDON,dEN
cVIN,dZEN,dTAN,dIN,cKAN,dLAS,dMAN,dNAR,dON,cPAR,dZHAR,eRAE,dSAN,dTAR,dUN,cPHAR,eKHAR,eGHAN,eQAR
dSHIN,eCHIN,dAN,dJIL,dCIL,cHAR,eXAN,dJHAN,eHAE,cE,bIE,dWE,cHAR,cOE,+1,dYN,+5,cAEN,+2
zaTIFINAGH LETTER YA,aB,aH,cG,aHH,fBERBER ACADEMY YAJ,sYAJ,bD,aH,bD,aH,eEY,cAF,bK,dTUAREG YAK
kYAKHH,dH,dBERBER ACADEMY YAH,sTUAREG YAH,kYAHH,cA,bKH,eTUAREG YAKH,lYAQ,dTUAREG YAQ,kYI,bAZH
eAHAGGAR YAZH,mTUAREG YAZH,lYAL,bM,bN,dTUAREG YAGN,cNG,lYAP,cU,bAR,aR,cGH,eTUAREG YAGH,lAYER YAGH
jYAS,aS,bH,cT,aH,cCH,cTT,cV,bW,bY,bZ,dTAWELLEMET YAZ,oYAZZ,dE,bO,+7
jMODIFIER LETTER LABIALIZATION MARK,zjSEPARATOR MARK,+14,oCONSONANT JOINER,zaETHIOPIC SYLLABLE LOA
dMOA,dROA,dSOA,cHOA,eBOA,dTOA,dCOA,dNOA,cYOA,eGLOTTAL OA,kZOA,dDOA,cDOA,eJOA,dTHOA,eCHOA,ePHOA,dOA
dGGWA,bI,bEE,b,+9,eSSA,bU,bI,bAA,cEE,b,bO,+1,dCCA,bU,bI,bAA,cEE,b,bO,+1,dZZA,bU,bI,bAA,cEE,b,bO,+1
dCCHA,bU,bI,bAA,cEE,b,bO,+1,eQYA,bU,bI,bAA,cEE,b,bO,+1,dKYA,bU,bI,bAA,cEE,b,bO,+1,dXYA,bU,bI,bAA
cEE,b,bO,+1,dGYA,bU,bI,bAA,cEE,b,bO,+1,vCOMBINING CYRILLIC LETTER BE,cVE,cGHE,dDE,cZHE,cE,cKA,cEL
bM,bN,cO,bPE,cER,bS,cTE,cHA,cTSE,dCHE,dSHA,bCHA,fFITA,eES-TE,fA,bIE,cDJERV,fMONOGRAPH UK,mYAT,cU
cIOTIFIED A,kLITTLE YUS,kBIG YUS,hIOTIFIED BIG YUS,zrRIGHT ANGLE SUBSTITUTION MARKER
tDOTTED SUBSTITUTION MARKER,znLEFT SUBSTITUTION BRACKET,zaRIGHT SUBSTITUTION BRACKET
zbLEFT DOTTED SUBSTITUTION BRACKET,zhRIGHT DOTTED SUBSTITUTION BRACKET,zhAISED INTERPOLATION MARKER
uDOTTED INTERPOLATION MARKER,zjDOTTED TRANSPOSITION MARKER,zcLEFT TRANSPOSITION BRACKET
zbRIGHT TRANSPOSITION BRACKET,zbAISED SQUARE,nLEFT RAISED OMISSION BRACKET
zdRIGHT RAISED OMISSION BRACKET,zeEDITORIAL CORONIS,rPARAGRAPHOS,lFORKED PARAGRAPHOS
sREVERSED FORKED PARAGRAPHOS,zcHYPODIASTOLE,mDOTTED OBELOS,lWNWARDS ANCORA,qUPWARDS ANCORA
oDOTTED RIGHT-POINTING ANGLE,zaUBLE OBLIQUE HYPHEN,vINVERTED INTERROBANG,uPALM BRANCH
lHYPHEN WITH DIAERESIS,vTILDE WITH RING ABOVE,vLEFT LOW PARAPHRASE BRACKET
zcRIGHT LOW PARAPHRASE BRACKET,zdTILDE WITH DOT ABOVE,fBELOW,uLEFT VERTICAL BAR WITH QUILL
zdRIGHT VERTICAL BAR WITH QUILL,zeTOP LEFT HALF BRACKET,rRIGHT HALF BRACKET
wBOTTOM LEFT HALF BRACKET,rRIGHT HALF BRACKET,zaLEFT SIDEWAYS U BRACKET,xRIGHT SIDEWAYS U BRACKET
yLEFT DOUBLE PARENTHESIS,xRIGHT DOUBLE PARENTHESIS,yTWO DOTS OVER ONE DOT PUNCTUATION
ziONE DOT OVER TWO DOTS PUNCTUATION,ziSQUARED FOUR DOT PUNCTUATION,zdFIVE DOT MARK
nREVERSED QUESTION MARK,wVERTICAL TILDE,oRING POINT,kWORD SEPARATOR MIDDLE DOT,zaTURNED COMMA
mRAISED DOT,dCOMMA,mTURNED SEMICOLON,qDAGGER WITH LEFT GUARD,kRIGHT GUARD,xTURNED DAGGER
mOP HALF SECTION SIGN,uWO-EM DASH,kHREE-EM DASH,nSTENOGRAPHIC FULL STOP,wVERTICAL SIX DOTS
rWIGGLY VERTICAL LINE,uCAPITULUM,jDOUBLE HYPHEN,nREVERSED COMMA
oDOUBLE LOW-REVERSED-9 QUOTATION MARK,zkASH WITH LEFT UPTURN,uOUBLE SUSPENSION MARK
wINVERTED LOW KAVYKA,a WITH KAVYKA ABOVE,zmLOW KAVYKA,a WITH DOT,tDOUBLE STACKED COMMA
sTTED SOLIDUS,oTRIPLE DAGGER,nMEDIEVAL COMMA,oPARAGRAPHUS MARK,pUNCTUS ELEVATUS MARK
vCORNISH VERSE DIVIDER,uROSS PATTY WITH RIGHT CROSSBAR,oLEFT CROSSBAR,zfTIRONIAN SIGN CAPITAL ET
yMEDIEVAL EXCLAMATION MARK,qQUESTION MARK,wLEFT SQUARE BRACKET WITH STROKE
zgRIGHT SQUARE BRACKET WITH STROKE,zhLEFT SQUARE BRACKET WITH DOUBLE STROKE
znRIGHT SQUARE BRACKET WITH DOUBLE STROKE,zoTOP HALF LEFT PARENTHESIS,qRIGHT PARENTHESIS
zbBOTTOM HALF LEFT PARENTHESIS,qRIGHT PARENTHESIS,zeOBLIQUE HYPHEN,+34,oCJK RADICAL REPEAT,gCLIFF
fSECOND ONE,dTWO,cHREE,mPERSON,gBOX,dTABLE,fKNIFE ONE,dTWO,jDIVINATION,kSEAL,dMALL ONE,dTWO
jLAME ONE,dTWO,cHREE,fFOUR,jSNAKE,fTHREAD,gSNOUT ONE,dTWO,jHEART ONE,dTWO,iAND,eRAP,+1,dCHOKE,fSUN
dMOON,eDEATH,fMOTHER,gCIVILIAN,iWATER ONE,dTWO,jFIRE,ePAW ONE,dTWO,hSIMPLIFIED HALF TREE TRUNK
zbCOW,dDOG,dJADE,eBOLT OF CLOTH,nEYE,dSPIRIT ONE,dTWO,kBAMBOO,gSILK,eC-SIMPLIFIED SILK,rNET ONE
dTWO,cHREE,fFOUR,iMESH,eSHEEP,fRAM,dEWE,dOLD,dBRUSH ONE,dTWO,jMEAT,dORTAR,gGRASS ONE,dTWO,cHREE
lTIGER,fCLOTHES,hWEST ONE,dTWO,iC-SIMPLIFIED SEE,qSIMPLIFIED HORN,pHORN,eC-SIMPLIFIED SPEECH,fHELL
sFOOT,eC-SIMPLIFIED CART,rSIMPLIFIED WALK,pWALK ONE,dTWO,iCITY,d-SIMPLIFIED GOLD,rLONG ONE,dTWO
iC-SIMPLIFIED LONG,eGATE,rMOUND ONE,dTWO,jRAIN,eBLUE,eC-SIMPLIFIED TANNED LEATHER,oLEAF,eWIND,eFLY
qEAT ONE,dTWO,cHREE,jC-SIMPLIFIED EAT,qHEAD,eC-SIMPLIFIED HORSE,sBONE,eGHOST,fC-SIMPLIFIED FISH
eBIRD,eSALT,rSIMPLIFIED WHEAT,fYELLOW,rC-SIMPLIFIED FROG,rJ-SIMPLIFIED EVEN,rC-SIMPLIFIED EVEN
rJ-SIMPLIFIED TOOTH,sC-SIMPLIFIED TOOTH,sJ-SIMPLIFIED DRAGON,tC-SIMPLIFIED DRAGON,tTURTLE
gJ-SIMPLIFIED TURTLE,tC-SIMPLIFIED TURTLE,+12,zgKANGXI RADICAL ONE,dLINE,eDOT,dSLASH,eECOND,gHOOK
eTWO,dLID,dMAN,dLEGS,eENTER,eIGHT,fDOWN BOX,iCOVER,fICE,dTABLE,fOPEN BOX,iKNIFE,fPOWER,fWRAP,eSPOON
fRIGHT OPEN BOX,oHIDING ENCLOSURE,qTEN,dDIVINATION,kSEAL,eCLIFF,fPRIVATE,hAGAIN,fMOUTH,fENCLOSURE
iARTH,fSCHOLAR,hGO,a SLOWLY,jEVENING,hBIG,dWOMAN,fCHILD,fROOF,eINCH,eSMALL,fLAME,eCORPSE,gSPROUT
gMOUNTAIN,iRIVER,fWORK,eONESELF,hTURBAN,gDRY,dSHORT THREAD,mDOTTED CLIFF,mLONG STRIDE,lTWO HANDS
jSHOOT,fBOW,dSNOUT,fBRISTLE,hSTEP,eHEART,eALBERD,hDOOR,eHAND,eBRANCH,gRAP,dSCRIPT,gDIPPER,gAXE
dSQUARE,gNOT,dSUN,cAY,dMOON,eTREE,eLACK,eSTOP,eDEATH,fWEAPON,gDO NOT,gCOMPARE,hFUR,dCLAN,eSTEAM
fWATER,fFIRE,eCLAW,eFATHER,gDOUBLE X,iHALF TREE TRUNK,pSLICE,fFANG,eCOW,dDOG,dPROFOUND,iJADE,eMELON
fTILE,eSWEET,fLIFE,eUSE,dFIELD,fBOLT OF CLOTH,nSICKNESS,iDOTTED TENT,lWHITE,fSKIN,eDISH,eEYE,dSPEAR
fARROW,fSTONE,ePIRIT,gTRACK,fGRAIN,fCAVE,eSTAND,fBAMBOO,gRICE,eSILK,eJAR,dNET,dSHEEP,fFEATHER,hOLD
dAND,dPLOW,eEAR,dBRUSH,fMEAT,dINISTER,iSELF,eARRIVE,gMORTAR,gTONGUE,gOPPOSE,gBOAT,eSTOPPING,iCOLOR
fGRASS,fTIGER,fINSECT,gBLOOD,fWALK ENCLOSURE,oCLOTHES,hWEST,eSEE,dHORN,eSPEECH,gVALLEY,gBEAN,ePIG
dBADGER,gSHELL,fRED,cUN,dFOOT,eBODY,eCART,eBITTER,gMORNING,hWALK,eCITY,eWINE,eDISTINGUISH,lVILLAGE
hGOLD,eLONG,eGATE,eMOUND,fSLAVE,eHORT TAILED BIRD,rRAIN,eBLUE,eWRONG,fFACE,eLEATHER,hTANNED LEATHER
oLEEK,eSOUND,fLEAF,eWIND,eFLY,dEAT,dHEAD,eFRAGRANT,iHORSE,fBONE,eTALL,eHAIR,eFIGHT
fSACRIFICIAL WINE,qCAULDRON,iGHOST,fFISH,eBIRD,eSALT,eDEER,eWHEAT,fHEMP,eYELLOW,gMILLET,gBLACK
fEMBROIDERY,kFROG,eTRIPOD,gDRUM,eRAT,dNOSE,eEVEN,eTOOTH,fDRAGON,gTURTLE,gFLUTE,+26
uIDEOGRAPHIC DESCRIPTION CHARACTER LEFT TO RIGHT,nABOVE TO BELOW,oLEFT TO MIDDLE AND RIGHT
yABOVE TO MIDDLE AND BELOW,zaFULL SURROUND,nSURROUND FROM ABOVE,fBELOW,fLEFT,eUPPER LEFT,eRIGHT
lLOWER LEFT,yOVERLAID"

end SchemaDoc.Text.Names
