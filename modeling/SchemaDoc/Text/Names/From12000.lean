/-
SchemaDoc.Text.Names.From12000 — the names of the characters from U+12000 on.

The block holds cuneiform and Egyptian signs.
How it is written is said where it is read.
-/

namespace SchemaDoc.Text.Names

/-- The names from U+12000 on. -/
def from12000 : String :=
  "aCUNEIFORM SIGN A,a TIMES A,bBAD,dGAN2 TENU,jHA,cIGI,dLAGAR GUNU,kMUSH,eSAG,k2,bB,a TIMES ASH2
eDUN3 GUNU,jGAL,bN2 TENU,jHA,cIGI GUNU,hMIN,eLAGAB,fSHESH,fU PLUS U PLUS U,vGUNU,f2,a TIMES BALAG
fGAN2 TENU,jME PLUS EN,kSHA3,eTAK4,nD,bK,a TIMES ERIN2,fSHITA PLUS GISH,xL,a TIMES AL,cDIM2,eGISH
eHA,cKAD3,dI,cSHE,dUSH,kAN,cEPH,eMAR,a TIMES SHE,nN,a OVER AN,hTHREE TIMES
lPLUS NAGA OPPOSING AN PLUS NAGA,vSQUARED,sSHE,ePIN,dRAD,a TIMES KUR,mKAB,eSAL2,dH,a ZIDA TENU
jKABA TENU,jOVER ASH TUG2 OVER TUG2 TUG2 OVER TUG2 PAP,ziOVER ASH,a CROSSING ASH OVER ASH OVER ASH
zy2,bGAB,gBA,aD,bG3,cHAR2,eL,a OVER BAL,jAG,dR,aA2,eI,a TIMES A,bGAR,dIGI GUNU,qU,a OVER BU AB,cUN
kCROSSING BU,mLUG,a OVER BULUG,oR,a2,eDA,aG,a KISIM5 TIMES A PLUS MASH,kMAR,eBALAG,eI,cGA
a PLUS MASH,lI,aR2,dUD,dHA,cIR,a PLUS LU,kKAK,dLA,bU,a PLUS MASH2,lM,dNE,cPAP PLUS PAP,mSI,cTAK4
eU2 PLUS GIR2,lSH,sM,bR,aA3,b4,eI,aB,bM,a TIMES SHE,k2,cN,a KASKAL U GUNU DISH,uSH,dU,a OVER DU
hGUNU,eSHESHIG,iB,a TIMES ESH2,l2,cG,aUD,dH,bN,a3,a GUNU,a GUNU,l4,cR2,eE,a TIMES PAP
jOVER E NUN OVER NUN,u2,a TIMES A PLUS HA PLUS DA,rGAR,dMI,cSAL,cHE,dU,jDIN,dGIR,dL,bN,a TIMES GAN2
a TENU,jME,iCROSSING EN,lOPPOSING EN,lSQUARED,jREN,cIN2,eSH2,dZEN,a TIMES A,a PLUS LAL,a TIMES LAL
tN,cBAD,dDUN3 GUNU,a GUNU,oHA,a GUNU,hIGI GUNU,iKASKAL,a SQUARED,nU3,dLA,aL TIMES LAL,mI,bU,cU2,bD
nGA,a GUNU,f2,a TIMES A PLUS DA PLUS HA,kHA,cIGI,jB2 TENU PLUS TAB,qN,bSH,a2 PLUS GAL,nBAD
bR PLUS RA,kUR,a PLUS RA,lDA,bI,aM TIMES SHE,mUB,dEL,a PLUS LA,jN,a TIMES GAN2 TENU,sGAN2 TENU,hR
cI,a4,a PLUS A,iR2 PLUS SU,mHA PLUS LU PLUS ESH2,sL,a PLUS LA,kI PLUS LI,jUB2,eIGI GUNU
hSH PLUS HU PLUS ASH,uKAK,bSKAL,fID,a PLUS LAL,lU3 PLUS AN,lLA,cME PLUS EN,jI,cNUN,a OVER NUN,mPA
cSAL,bR,cHE,a PLUS TUR,kID,dUM,dTAK4,eU,aD,a PLUS DU,qOVER GA2,kBA,a CROSSING GABA,qD
a OVER GAD GAR OVER GAR,xL,a GAD OVER GAD GAR OVER GAR,zbAM,dM,bN,a2,a TENU,eOVER GAN2
jCROSSING GAN2,qR,a3,cSHAN,fESHTIN,a TIMES KUR,qI,a TIMES E,bU,hCROSSING GI,m4,a OVER GI4
iCROSSING GI4,oDIM,dR2,a GUNU,g3,a TIMES A PLUS IGI,kGAN2 TENU,jIGI,dLU PLUS IGI,lPA,lSAL,cH
a CROSSING GISH,nTIMES BAD,dTAK4,jENU,iU,a CROSSING GU,m2,a TIMES KAK,a TIMES IGI GUNU,sNUN
dSAL PLUS TUG2,tGUNU,gD,a TIMES A PLUS KUR,kKUR,jOVER GUD LUGAL,qL,bM,a TIMES SHE,lR,a7,bUN,bSH,gHA
a TENU,eGUNU,fL,cI,a TIMES ASH,a2,eBAD,dDISH,eGAD,dKIN,dNUN,dSHE,dU,jU,aB2,a TIMES AN,cHAL,dKASKAL
gLISH,eUD,lL2,eI,a A,cB,bDIM,a OVER IDIM BUR,dSQUARED,vG,aI,a DIB,dRI
cOVER IGI SHIR OVER SHIR UD OVER UD,zjGUNU,hL,a TIMES GAN2 TENU,q2,cM,a TIMES TAK4,kCROSSING IM
lOPPOSING IM,lSQUARED,iIN,dN,bR,bSH,dKA,a TIMES A,aD,a PLUS KU3,kSH2,eBAD,bLAG,dR,cI,cERIN2,eSH2
eGA,aL,bN2 TENU,hR,a PLUS SHA3 PLUS A,tI,aR2,cSH PLUS SAR,iCROSSING GISH,rU,aR7,eIGI,cM,cKAK,cI,aD
dLI,bU,cME,a PLUS DU,cGI,cTE,jI,a PLUS NUNUZ,nNE,bUN,dPI,cRU,cSA,aR,cHA,bE,bID,cU,cIG,cUHUR,fTAR,dU
a2,bD,bMUM TIMES PA,mSH,dZI,j2,a CROSSING KA2,oB,bD2,b3,b4,b5,a OVER KAD5,mK,a TIMES IGI GUNU,qL
a TIMES BAD,jCROSSING KAL,oM2,b4,cSKAL,a LAGAB TIMES U OVER LAGAB TIMES U
zhOVER KASKAL LAGAB TIMES U OVER LAGAB TIMES U,zzaESH2,eI,a TIMES BAD,dU,aD,jD,bN,bSAL,cH,bIM5
a OVER KISIM5,rU,a OVER HI TIMES ASH2 KU OVER HI TIMES ASH2,zq3,b4,a VARIANT FORM,o7,bL,a GUNU,gN
bR,a OPPOSING KUR,oSHU2,fWU318,gLA,aGAB,a TIMES A,a PLUS DA PLUS HA,kGAR,dLAL,jL,bN,bSH ZIDA TENU
nBAD,cI,cDAR,dEN,cGA,aR,cUD,a PLUS GUD,mHA,aL,cI TIMES NUN,mIGI GUNU,hM,a PLUS HA,cLU,kKI,aN,cU3,bL
a PLUS HI PLUS A,sLAGAB,eISH,dU,aL,dME,a PLUS EN,jUSH,eNE,cSHE PLUS SUM,kITA PLUS GISH PLUS ERIN2
kTENU,sU2,a PLUS SHU2,nUM,dTAG,bK4,dE PLUS A PLUS SU PLUS NA,zaU,a PLUS A,bU PLUS U,o2 PLUS ASH,kD
bSH,jSQUARED,jR,a TIMES SHE,a PLUS SUM,sGUNU,a OVER LAGAR GUNU SHE,zdHSHU,eL,a TIMES LAL,lM
a TIMES KUR,a PLUS RU,uI,aL,bMMU2,eSH,dU,a TIMES BAD,k2,a TIMES AL,cBAD,dESH2,a TENU,jGAN2 TENU
jHI TIMES BAD,mIM,cKAD2,b3,a PLUS ASH,mI,cLA PLUS ASH,jGAB,fME PLUS EN,kNE,bU,cSI PLUS ASH
jK2 PLUS BU,mTUG2,jENU,eCROSSING LU2,mOPPOSING LU2,mSQUARED,gHESHIG,j3,bGAL,a OVER LUGAL
jPPOSING LUGAL,oSHESHIG,lH,bL,bM,a OVER LUM,a GAR OVER GAR,zaMA,a TIMES TAK4,kGUNU,f2,bH,bR,bSH,a2
eE,aS,cI,aN,cU,a OVER MU,iG,a GUNU,gNSUB,eRGU2,eSH,a TIMES A,bKUR,dZA,iOVER MUSH,a TIMES A PLUS NA
zaCROSSING MUSH,o3,a TIMES A,a PLUS DI,jDI,iGUNU,kNA,a2,bGA,a INVERTED,iTIMES SHU TENU
oOPPOSING NAGA,oR,dM NUTILLU,i,a2,dE,a TIMES A,bUD,iSHESHIG,jI,a TIMES E,i2,bM,a TIMES GAN2 TENU
hR PLUS GAN2 TENU,zbNDA2,a TIMES AN,bSH,a PLUS ASH,mGUD,dME PLUS GAN2 TENU,rNE,bUN,dSHE,a PLUS A AN
dSH,a PLUS ASH,vU2 PLUS ASH,kSH,oSAG,eU,a11,cN,a LAGAR TIMES GAR,dMASH,eSAL
a OVER NUN LAGAR TIMES SAL,zdUSH,pTENU,eOVER NUN,iCROSSING NUN,a LAGAR OVER LAGAR,zfUZ
a AB2 TIMES ASHGAB,gBI,cDUG,dGUD,dIGI GUNU,iKAD3,eLA,cNE,cSILA3,fU2,mKISIM5 TIMES BI,a U,xPA,aD,bN
bP,cESH2,eI,a TIMES A,aB,cBI,bU,cE,bI,aB,cU,a2,iCROSSING PI,mRIG,a TIMES KAL,dUD,cZA
iOPPOSING PIRIG,uRA,aB,cI,bU,cSA,aG NUTILLU,i,a TIMES A,bDU,aB,dHA,cKAK,cUR,dLUM,dMI,cNUN,dSAL,cHID
eTAB,dU2,bB,bM,bR,bSH,jOVER SAG,iGUNU,gL,a LAGAB TIMES ASH2,sNGA2,eR,cHA,a3,a TIMES A,bBAD,dGISH
eNE,cSHU2,eTUR,dU,a PLUS A,q6,bB6,cR2,dE,a HU,cOVER SHE GAD OVER GAD GAR OVER GAR
zaTAB OVER TAB GAR OVER GAR,zkG9,cN,bSH,a2,bLAM,gID,a TIMES A,bIM,kM,a TIMES A,bBAL,cULUG,fDIN,dGAR
dIGI,a GUNU,iKUSHU2,gLUL,dMUG,dSAL,lNIG,dR,a TENU,eOVER SHIR BUR OVER BUR,yTA,dU
a OVER INVERTED SHU,s2,bBUR,fI,a GUNU,fG,a4,a OVER SIG4 SHU2,rK2,cLA3,eU,a OVER SU,iD,a2,cHUR,dM
aASH,eR,a9,eTA,a ASTERISK,iTIMES HI,cMI,iGUNU,fB,a OVER TAB NI OVER NI DISH OVER DISH,zjSQUARED,jG
a TIMES BI,cGUD,dSHE,bU,dTUG2,eUD,kK4,cR,cE,a GUNU,gI,a TENU,fL,bR,a TIMES TAK4,kOVER TIR
a GAD OVER GAD GAR OVER GAR,zmU,aG2,cK,bM,bR,a OVER TUR ZA OVER ZA,xU,a GUD,dU U
dOVER U PA OVER PA GAR OVER GAR,xSUR OVER SUR,mU REVERSED OVER U REVERSED,zj2,bB,bD,a KUSHU2
gTIMES BAD,dMI,cU PLUS U PLUS U,a GUNU,zbGUNU,eSHESHIG,a TIMES BAD,sUG,dM,a TIMES LAGAB,fME PLUS DA
kSHA3,eU,iBIN,dUM,a TIMES KASKAL,gPA,mN,a GUNU,gR,a CROSSING UR,lSHESHIG,i2,a TIMES A PLUS HA,cNA
iL,cHA,cNUN,dU2,a PLUS ASH,dBI,s4,bI,a3,cU,a TIMES A,aSHGAB,gBAR,dDUN,dGA,aL,bN2 TENU,hR,cU,cHA
cIGI,cM,bSH,dKI,cLUM,dMIN,dPA,cSHE,cIG4,eTU,cU PLUS GUD,jD,bRUDA,mDA,a TIMES U,mSH,a TIMES A,bKU,aR
dTAK4,lX,b2,bUMX,fTUKI,eZ3,a TIMES KASKAL,oU,dZA,a TENU,eSQUARED TIMES KUR,sG,bMX,dE2,cI,a OVER ZI
i3,bB,a KABA TENU,lG,bZ2,dU,a5,a TIMES A,jBUR,dM,dKAP ELAMITE,lAB TIMES NUN,k2 TIMES A
kMAR TIMES KUG,oDAG KISIM5 TIMES U2 PLUS MASH,zb3,dISH PLUS SHU,mUB TIMES SHE,nEZEN TIMES GUD,dSHE
oGA2 TIMES AN PLUS KAK PLUS A,rSH2,nE22,dIG,dHUSH,eKA TIMES ANSHE,eSH3,eGISH,dUD,dHI TIMES ASH2
nLUM,dPA,cSHUL,eTU,cUR2,mLAGAB TIMES GI,nU2 SHESHIG TIMES BAD,rTIMES ESH2 PLUS LAL,nSHU,nMESH
dUSH3 TIMES ZA,oNA4,cIN,a9,bDA2 TIMES BAL,dGI,oU11 ROTATED NINETY DEGREES,zcPESH2 ASTERISK,nIR2
eSAG TIMES IGI GUNU,sTI2,dUM TIMES ME,k U,+102,iNUMERIC SIGN TWO ASH,gHREE ASH,jFOUR ASH,hIVE ASH
iSIX ASH,gEVEN ASH,jEIGHT ASH,jNINE ASH,iTHREE DISH,kFOUR DISH,iIVE DISH,jSIX DISH,hEVEN DISH
kEIGHT DISH,kNINE DISH,jFOUR U,fIVE U,gSIX U,eEVEN U,hEIGHT U,hNINE U,gONE GESH2,jTWO GESH2
iHREE GESH2,lFOUR GESH2,jIVE GESH2,kSIX GESH2,iEVEN GESH2,lEIGHT GESH2,lNINE GESH2,kONE GESHU
jTWO GESHU,iHREE GESHU,lFOUR GESHU,jIVE GESHU,kTWO SHAR2,iHREE SHAR2,a VARIANT FORM,yFOUR SHAR2
jIVE SHAR2,kSIX SHAR2,iEVEN SHAR2,lEIGHT SHAR2,lNINE SHAR2,kONE SHARU,jTWO SHARU,iHREE SHARU
a VARIANT FORM,yFOUR SHARU,jIVE SHARU,kSHAR2 TIMES GAL PLUS DISH,eMIN,yONE BURU,iTWO BURU
hHREE BURU,a VARIANT FORM,xFOUR BURU,iIVE BURU,jTHREE VARIANT FORM ESH16,c21
yFOUR VARIANT FORM LIMMU,a4,b A,bB,zaSIX VARIANT FORM ASH9,uEVEN VARIANT FORM IMIN3,b A,bB
zaEIGHT VARIANT FORM USSU,a3,yNINE VARIANT FORM ILIMMU,a3,b4,b A,zbTWO ASH TENU,lHREE ASH TENU
oFOUR ASH TENU,mIVE ASH TENU,nSIX ASH TENU,mONE BAN2,iTWO BAN2,hHREE BAN2,kFOUR BAN2,a VARIANT FORM
vIVE BAN2,a VARIANT FORM,wNIGIDAMIN,dESH,jONE ESHE3,jTWO ESHE3,jONE THIRD DISH,oTWO THIRDS DISH
pFIVE SIXTHS DISH,qONE THIRD VARIANT FORM A,yTWO THIRDS VARIANT FORM A,zaONE EIGHTH ASH
kQUARTER ASH,oLD ASSYRIAN ONE SIXTH,fQUARTER,xNE QUARTER GUR,lHALF GUR,mELAMITE ONE THIRD
jTWO THIRDS,kFORTY,eIFTY,nFOUR U VARIANT FORM,sIVE U VARIANT FORM,tSIX U VARIANT FORM
rEVEN U VARIANT FORM,uEIGHT U VARIANT FORM,uNINE U VARIANT FORM,+1
zhPUNCTUATION SIGN OLD ASSYRIAN WORD DIVIDER,zaVERTICAL COLON,oDIAGONAL COLON,fTRICOLON,iQUADCOLON
+11,zkSIGN AB TIMES NUN TENU,iSHU2,mD TIMES ESH2,nBAD TIMES DISH TENU,rHAR2 TIMES AB2,dNI,cZA
oU OVER BU TIMES NA2,uDA TIMES TAK4,lG TIMES KUR,mIM TIMES IGI,dU U U,m2 TIMES UD,mUG TIMES ANSHE
eSH,a AT LEFT,lDIN,cUN,dERIN2,fGA,bI,aR2 GUNU,hSH,eHA,bI,cIGI GUNU,iKASKAL,fUR,bSHU2,a PLUS KASKAL
sLAK-020,fM,a TIMES KUR,mUH PLUS GISH,nMASH,dES,cI,cNI,cPI,cSHE,cI GUNU,rE2 TIMES KUR,dPAP,lRIN2 X
gSH2 CROSSING ESH2,rZEN SHESHIG TIMES ASH,dHI,cIGI GUNU,iLA,aL,dME,aS,dSU,qTIMES SU
nGA2 TIMES BAHAR2,gDIM GUNU,hUG TIMES IGI GUNU,iKASKAL,qEREN,eGA,aR PLUS DI,cNE,lHA PLUS A
jKUSHU2 PLUS KASKAL,sLAM,a TIMES KUR,mUH,dMUSH,eNE,a PLUS E2,cGI,kSHIM,eZIZ2
mBA ROTATED NINETY DEGREES,zbESHTIN TIMES U,oISH TIMES GISH CROSSING GISH,zdU2 TIMES IGI GUNU
qD PLUS GISH TIMES TAK4,yHA TENU GUNU,lI TIMES ASH OVER HI TIMES ASH,zfKA TIMES BU,cKA,cU U U,eR
lLAGAB TIMES ZU OVER ZU,uK-003,c21,b5,c30,c50,b1,c62,c79 OVER LAK-079 GUNU,u80,b1 OVER LAK-081,p92
d130,c42,d210,b9,c20,b5,b8,c38,c65,b6,d343,b7,b8,c83,b4,c90,d441,b9,a TIMES GU,cIGI,dPAP PLUS LU3
dPAP PLUS LU3,vU2 PLUS BA,t50,b7,c70,c83,c90,b2,b3,b5,d550,d608,c17,a TIMES ASH,dBAD
dDUN3 GUNU GUNU,oKU3,dLA,cTAR,cE,cU2,bD,bRUDA,o36,c48,a TIMES DUB,dGA,cIGI,a GUNU,iNI
cPAP PLUS PAP PLUS LU3,vSHESH PLUS KI,nUD,bRUDA,p724,c49,gU2 GUNU TIMES ASH,oTIMES DISH,eHAL,dPAP
a PLUS PAP PLUS LU3,vTAK4,oMI PLUS ZA7,kUSH OVER MUSH TIMES GA,cKAK,yNINDA2 TIMES DIM GUNU,iGISH
dUL,dHI,cKESH2,fLAK-050,hMASH,ePAP PLUS PAP,mU,a PLUS U,hRUDA,sSAG GUNU TIMES HA,nTIMES EN
cSHE AT LEFT,lTAK4,nHA6 TENU,hE OVER SHE,iPLUS HUB2,eNAM2,eSAR,kU2 PLUS DUG TIMES NI,mE2 TIMES AN
uI TIMES TAK4,nTAK4 PLUS SAG,mUM TIMES GAN2 TENU,jTHREE DISH,uUR2 INVERTED,iTIMES UD,kU TIMES DARA3
fLAK-668,gU3,nZA7,cU OVER ZU PLUS SAR,r5 TIMES THREE DISH TENU,+2636,zoYPRO-MINOAN SIGN CM001,b2,b4
b5,b6,b7,b8,b9,c10,b1,b2,aB,c3,b5,b7,b9,c21,b3,b4,b5,b6,b7,b8,b9,c30,b3,b4,b5,b6,b7,b8,b9,c40,b1,b4
b6,b7,b9,c50,b1,b2,b3,b4,b5,b6,b8,b9,c60,b1,b2,b3,b4,b6,b7,b8,b9,c70,b1,b2,b3,b4,b5,aB,c6,b8,b9,c80
b1,b2,b3,b4,b5,b6,b7,b8,b9,c90,b1,b2,b4,b5,b6,b7,b8,b9,d100,b1,b2,b3,b4,b5,b7,b8,b9,c10,b2,b4,d301
b2,+13,xEGYPTIAN HIEROGLYPH A001,b2,b3,b4,b5,aA,c6,aA,bB,c7,b8,b9,c10,b1,b2,b3,b4,aA,c5,b6,b7,aA,c8
b9,c20,b1,b2,b3,b4,b5,b6,b7,b8,b9,c30,b1,b2,aA,c3,b4,b5,b6,b7,b8,b9,c40,aA,c1,b2,aA,c3,aA,c4,b5,aA
c6,b7,b8,b9,c50,b1,b2,b3,b4,b5,b6,b7,b8,b9,c60,b1,b2,b3,b4,b5,b6,b7,b8,b9,c70,eB001,b2,b3,b4,b5,aA
c6,b7,b8,b9,eC001,b2,aA,bB,bC,c3,b4,b5,b6,b7,b8,b9,c10,aA,c1,b2,b3,b4,b5,b6,b7,b8,b9,c20,b1,b2,b3
b4,eD001,b2,b3,b4,b5,b6,b7,b8,aA,c9,c10,b1,b2,b3,b4,b5,b6,b7,b8,b9,c20,b1,b2,b3,b4,b5,b6,b7,aA,c8
b9,c30,b1,aA,c2,b3,b4,aA,c5,b6,b7,b8,b9,c40,b1,b2,b3,b4,b5,b6,aA,c7,b8,aA,c9,c50,aA,bB,bC,bD,bE,bF
bG,bH,bI,c1,b2,aA,c3,b4,aA,c5,b6,b7,b8,b9,c60,b1,b2,b3,b4,b5,b6,b7,aA,bB,bC,bD,bE,bF,bG,bH,fE001,b2
b3,b4,b5,b6,b7,b8,aA,c9,aA,d10,b1,b2,b3,b4,b5,b6,aA,c7,aA,c8,b9,c20,aA,c1,b2,b3,b4,b5,b6,b7,b8,aA
c9,c30,b1,b2,b3,b4,aA,c6,b7,b8,eF001,aA,c2,b3,b4,b5,b6,b7,b8,b9,c10,b1,b2,b3,aA,c4,b5,b6,b7,b8,b9
c20,b1,aA,c2,b3,b4,b5,b6,b7,b8,b9,c30,b1,aA,c2,b3,b4,b5,b6,b7,aA,c8,aA,c9,c40,b1,b2,b3,b4,b5,aA,c6
aA,c7,aA,c8,b9,c50,b1,aA,bB,bC,c2,b3,eG001,b2,b3,b4,b5,b6,aA,c7,aA,bB,c8,b9,c10,b1,aA,c2,b3,b4,b5
b6,b7,b8,b9,c20,aA,c1,b2,b3,b4,b5,b6,aA,c7,b8,b9,c30,b1,b2,b3,b4,b5,b6,aA,c7,aA,c8,b9,c40,b1,b2,b3
aA,c4,b5,aA,c6,b7,b8,b9,c50,b1,b2,b3,b4,eH001,b2,b3,b4,b5,b6,aA,c7,b8,eI001,b2,b3,b4,b5,aA,c6,b7,b8
b9,aA,d10,aA,c1,aA,c2,b3,b4,b5,eK001,b2,b3,b4,b5,b6,b7,b8,eL001,b2,aA,c3,b4,b5,b6,aA,c7,b8,eM001,aA
bB,c2,b3,aA,c4,b5,b6,b7,b8,b9,c10,aA,c1,b2,aA,bB,bC,bD,bE,bF,bG,bH,c3,b4,b5,aA,c6,aA,c7,aA,c8,b9
c20,b1,b2,aA,c3,b4,aA,c5,b6,b7,b8,aA,c9,c30,b1,aA,c2,b3,aA,bB,c4,b5,b6,b7,b8,b9,c40,aA,c1,b2,b3,b4
eN001,b2,b3,b4,b5,b6,b7,b8,b9,c10,b1,b2,b3,b4,b5,b6,b7,b8,aA,bB,c9,c20,b1,b2,b3,b4,b5,aA,c6,b7,b8
b9,c30,b1,b2,b3,aA,c4,aA,c5,aA,c6,b7,aA,c8,b9,c40,b1,b2,dL001,b2,b3,b4,b5,aA,c6,b7,b8,b9,c10,b1,b2
b3,b4,b5,b6,b7,aA,c8,b9,c20,eU001,b2,b3,b4,b5,b6,b7,b8,b9,c10,aA,c1,aA,c2,b3,b4,b5,b6,b7,b8,aA,c9
c20,b1,b2,aA,gO001,aA,c2,b3,b4,b5,aA,c6,aA,bB,bC,bD,bE,bF,c7,b8,b9,c10,aA,bB,bC,c1,b2,b3,b4,b5,b6
b7,b8,b9,aA,d20,aA,c1,b2,b3,b4,aA,c5,aA,c6,b7,b8,b9,aA,d30,aA,c1,b2,b3,aA,c4,b5,b6,aA,bB,bC,bD,c7
b8,b9,c40,b1,b2,b3,b4,b5,b6,b7,b8,b9,c50,aA,bB,c1,eP001,aA,c2,b3,aA,c4,b5,b6,b7,b8,b9,c10,b1,eQ001
b2,b3,b4,b5,b6,b7,eR001,b2,aA,c3,aA,bB,c4,b5,b6,b7,b8,b9,c10,aA,c1,b2,b3,b4,b5,b6,aA,c7,b8,b9,c20
b1,b2,b3,b4,b5,b6,b7,b8,b9,eS001,b2,aA,c3,b4,b5,b6,aA,c7,b8,b9,c10,b1,b2,b3,b4,aA,bB,c5,b6,b7,aA,c8
b9,c20,b1,b2,b3,b4,b5,b6,aA,bB,c7,b8,b9,c30,b1,b2,b3,b4,b5,aA,c6,b7,b8,b9,c40,b1,b2,b3,b4,b5,b6
eT001,b2,b3,aA,c4,b5,b6,b7,aA,c8,aA,c9,aA,d10,b1,aA,c2,b3,b4,b5,b6,aA,c7,b8,b9,c20,b1,b2,b3,b4,b5
b6,b7,b8,b9,c30,b1,b2,aA,c3,aA,c4,b5,b6,eU001,b2,b3,b4,b5,b6,aA,bB,c7,b8,b9,c10,b1,b2,b3,b4,b5,b6
b7,b8,b9,c20,b1,b2,b3,aA,c4,b5,b6,b7,b8,b9,aA,d30,b1,b2,aA,c3,b4,b5,b6,b7,b8,b9,c40,b1,b2,eV001,aA
bB,bC,bD,bE,bF,bG,bH,bI,c2,aA,c3,b4,b5,b6,b7,aA,bB,c8,b9,c10,b1,aA,bB,bC,c2,aA,bB,c3,b4,b5,b6,b7,b8
b9,c20,aA,bB,bC,bD,bE,bF,bG,bH,bI,bJ,bK,bL,c1,b2,b3,aA,c4,b5,b6,b7,b8,aA,c9,aA,d30,aA,c1,aA,c2,b3
aA,c4,b5,b6,b7,aA,c8,b9,c40,aA,fW001,b2,b3,aA,c4,b5,b6,b7,b8,b9,aA,d10,aA,c1,b2,b3,b4,aA,c5,b6,b7
aA,c8,aA,c9,c20,b1,b2,b3,b4,aA,c5,eX001,b2,b3,b4,aA,bB,c5,b6,aA,c7,b8,aA,fY001,aA,c2,b3,b4,b5,b6,b7
b8,eZ001,b2,aA,bB,bC,bD,c3,aA,bB,c4,aA,c5,aA,c6,b7,b8,b9,c10,b1,b2,b3,b4,b5,aA,bB,bC,bD,bE,bF,bG,bH
bI,c6,aA,bB,bC,bD,bE,bF,bG,bH,fAA001,b2,b3,b4,b5,b6,b7,aA,bB,c8,b9,c10,b1,b2,b3,b4,b5,b6,b7,b8,b9
c20,b1,b2,b3,b4,b5,b6,b7,b8,b9,c30,b1,b2,+1,fVERTICAL JOINER,pHORIZONTAL JOINER
rINSERT AT TOP START,jBOTTOM START,mTOP END,hBOTTOM END,uOVERLAY MIDDLE,oBEGIN SEGMENT,nEND SEGMENT"

end SchemaDoc.Text.Names
